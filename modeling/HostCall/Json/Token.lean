import HostCall.Json.Numeral

/-!
The tokens of JSON text. Reading goes on from left to right up to the first place where no token
begins or one is cut off; there the tokens end with `junk`.
-/
namespace HostCall.Json

inductive Token where
  | openArray
  | closeArray
  | openObject
  | closeObject
  | comma
  | colon
  | null
  | bool (value : Bool)
  | number (n : Numeral)
  /-- A string; it has no value if it names half of a surrogate pair. -/
  | string (value : Option String)
  | junk
  deriving DecidableEq, Repr

namespace Token

/-- A unit of a string: a character, or a 16-bit number given by an escape. -/
inductive Piece where
  | char (c : Char)
  | escaped (unit : Nat)
  deriving DecidableEq, Repr

def shortEscape? : Char → Option Char
  | '"' => some '"'
  | '\\' => some '\\'
  | '/' => some '/'
  | 'b' => some '\x08'
  | 'f' => some '\x0c'
  | 'n' => some '\n'
  | 'r' => some '\r'
  | 't' => some '\t'
  | _ => none

def scanString : List Char → Option (List Piece × List Char)
  | [] => none
  | '"' :: rest => some ([], rest)
  | '\\' :: 'u' :: a :: b :: c :: d :: rest => do
    let unit ← Text.ofDigits? 16 [a, b, c, d]
    let (pieces, rest) ← scanString rest
    return (.escaped unit :: pieces, rest)
  | '\\' :: e :: rest => do
    let c ← shortEscape? e
    let (pieces, rest) ← scanString rest
    return (.char c :: pieces, rest)
  | c :: rest =>
    if c.toNat < 0x20 || c = '\\' then none
    else do
      let (pieces, rest) ← scanString rest
      return (.char c :: pieces, rest)

def isHighSurrogate (unit : Nat) : Bool := 0xd800 ≤ unit && unit < 0xdc00

def isLowSurrogate (unit : Nat) : Bool := 0xdc00 ≤ unit && unit < 0xe000

/-- The character beyond the first 65536 that a surrogate pair stands for. -/
def pairValue (high low : Nat) : Char :=
  Char.ofNat (0x10000 + (high - 0xd800) * 0x400 + (low - 0xdc00))

/-- The characters of a string, if each half of a surrogate pair has its other half beside it. -/
def decode : List Piece → Option (List Char)
  | [] => some []
  | .char c :: rest => (decode rest).map (c :: ·)
  | .escaped high :: .escaped low :: rest =>
    if isHighSurrogate high then
      if isLowSurrogate low then (decode rest).map (pairValue high low :: ·) else none
    else if isLowSurrogate high then none
    else (decode (.escaped low :: rest)).map (Char.ofNat high :: ·)
  | .escaped unit :: rest =>
    if isHighSurrogate unit || isLowSurrogate unit then none
    else (decode rest).map (Char.ofNat unit :: ·)

def isBlank (c : Char) : Bool := c == ' ' || c == '\t' || c == '\n' || c == '\r'

/-- Reads the token at the start of a text that does not start with a blank. -/
def next : List Char → Option (Token × List Char)
  | '[' :: rest => some (openArray, rest)
  | ']' :: rest => some (closeArray, rest)
  | '\x7b' :: rest => some (openObject, rest)
  | '\x7d' :: rest => some (closeObject, rest)
  | ',' :: rest => some (comma, rest)
  | ':' :: rest => some (colon, rest)
  | 'n' :: 'u' :: 'l' :: 'l' :: rest => some (null, rest)
  | 't' :: 'r' :: 'u' :: 'e' :: rest => some (bool true, rest)
  | 'f' :: 'a' :: 'l' :: 's' :: 'e' :: rest => some (bool false, rest)
  | '"' :: rest =>
    (scanString rest).map fun (pieces, rest) => (string ((decode pieces).map String.ofList), rest)
  | cs => (Numeral.scan cs).map fun (n, rest) => (number n, rest)

/-- Reads tokens and the blanks between them, at most `fuel` in all. -/
def scanAll : Nat → List Char → List Token
  | _, [] => []
  | 0, _ => []
  | fuel + 1, c :: rest =>
    if isBlank c then scanAll fuel rest
    else
      match next (c :: rest) with
      | none => [junk]
      | some (token, rest) => token :: scanAll fuel rest

def ofText (text : List Char) : List Token := scanAll text.length text

end Token

end HostCall.Json
