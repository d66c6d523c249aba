import HostCall.Text.Digits

/-!
Keys and strings in TOML text. A reader is given the text after what introduces it and returns what
it read and the text after that, or nothing if the text is not in the format.
-/
namespace HostCall.Toml

def isBlank (c : Char) : Bool := c == ' ' || c == '\t'

/-- A character that may stand in a comment. -/
def isPlain (c : Char) : Bool := c == '\t' || (' ' ≤ c && c ≠ '\x7f')

def isKeyChar (c : Char) : Bool := c.isAlphanum || c == '_' || c == '-'

def skipBlanks (cs : List Char) : List Char := cs.dropWhile isBlank

def lineBreak? : List Char → Option (List Char)
  | '\n' :: rest => some rest
  | '\r' :: '\n' :: rest => some rest
  | _ => none

def skipComment : List Char → List Char
  | '#' :: rest => rest.dropWhile isPlain
  | cs => cs

/-- Reads what may follow on a line: blanks, a comment, and the end of the line or of the text. -/
def lineEnd? (cs : List Char) : Option (List Char) :=
  match skipComment (skipBlanks cs) with
  | [] => some []
  | rest => lineBreak? rest

def shortEscape? : Char → Option Char
  | 'b' => some '\x08'
  | 't' => some '\t'
  | 'n' => some '\n'
  | 'f' => some '\x0c'
  | 'r' => some '\r'
  | '"' => some '"'
  | '\\' => some '\\'
  | _ => none

/-- The character of this number, given in hexadecimal. -/
def numbered? (digits : List Char) : Option Char := do
  let n ← Text.ofDigits? 16 digits
  if n.isValidChar then return Char.ofNat n else none

/-- Puts a character before the text that is read after it. -/
def prepend (c : Char) (read : Option (List Char × List Char)) : Option (List Char × List Char) :=
  read.map fun (text, rest) => (c :: text, rest)

def basicString : List Char → Option (List Char × List Char)
  | [] => none
  | '"' :: rest => some ([], rest)
  | '\\' :: 'u' :: a :: b :: c :: d :: rest =>
    (numbered? [a, b, c, d]).bind fun x => prepend x (basicString rest)
  | '\\' :: 'U' :: a :: b :: c :: d :: e :: f :: g :: h :: rest =>
    (numbered? [a, b, c, d, e, f, g, h]).bind fun x => prepend x (basicString rest)
  | '\\' :: e :: rest => (shortEscape? e).bind fun x => prepend x (basicString rest)
  | c :: rest => if isPlain c && c ≠ '\\' then prepend c (basicString rest) else none

/-- Where in a string of several lines a reader stands. -/
inductive Place where
  | text
  /-- After a backslash that hides the end of its line. -/
  | hiddenEnd
  /-- In the blanks and line breaks after a hidden line end. -/
  | margin
  deriving DecidableEq, Repr

/--
Reads a string in triple double quotes. One or two quotes may stand before the closing three, and
anywhere else too.
-/
def longBasicString : Place → List Char → Option (List Char × List Char)
  | _, [] => none
  | place, '\n' :: rest =>
    if place = .text then prepend '\n' (longBasicString .text rest) else longBasicString .margin rest
  | place, '\r' :: '\n' :: rest =>
    if place = .text then prepend '\n' (longBasicString .text rest) else longBasicString .margin rest
  | .hiddenEnd, c :: rest => if isBlank c then longBasicString .hiddenEnd rest else none
  | _, '"' :: '"' :: '"' :: '"' :: '"' :: rest => some (['"', '"'], rest)
  | _, '"' :: '"' :: '"' :: '"' :: rest => some (['"'], rest)
  | _, '"' :: '"' :: '"' :: rest => some ([], rest)
  | _, '"' :: rest => prepend '"' (longBasicString .text rest)
  | _, '\\' :: 'u' :: a :: b :: c :: d :: rest =>
    (numbered? [a, b, c, d]).bind fun x => prepend x (longBasicString .text rest)
  | _, '\\' :: 'U' :: a :: b :: c :: d :: e :: f :: g :: h :: rest =>
    (numbered? [a, b, c, d, e, f, g, h]).bind fun x => prepend x (longBasicString .text rest)
  | _, '\\' :: '\n' :: rest => longBasicString .margin rest
  | _, '\\' :: '\r' :: '\n' :: rest => longBasicString .margin rest
  | _, '\\' :: e :: rest =>
    if isBlank e then longBasicString .hiddenEnd rest
    else (shortEscape? e).bind fun x => prepend x (longBasicString .text rest)
  | place, c :: rest =>
    if place = .margin && isBlank c then longBasicString .margin rest
    else if isPlain c && c ≠ '\\' then prepend c (longBasicString .text rest)
    else none

/-- Reads a string in single quotes, in which nothing is escaped. -/
def literalString (cs : List Char) : Option (List Char × List Char) :=
  match cs.dropWhile fun c => isPlain c && c ≠ '\'' with
  | '\'' :: rest => some (cs.takeWhile fun c => isPlain c && c ≠ '\'', rest)
  | _ => none

/-- Reads a string in triple single quotes. -/
def longLiteralString : List Char → Option (List Char × List Char)
  | [] => none
  | '\'' :: '\'' :: '\'' :: '\'' :: '\'' :: rest => some (['\'', '\''], rest)
  | '\'' :: '\'' :: '\'' :: '\'' :: rest => some (['\''], rest)
  | '\'' :: '\'' :: '\'' :: rest => some ([], rest)
  | '\n' :: rest => prepend '\n' (longLiteralString rest)
  | '\r' :: '\n' :: rest => prepend '\n' (longLiteralString rest)
  | c :: rest => if isPlain c then prepend c (longLiteralString rest) else none

/-- Drops a line break right after opening triple quotes. -/
def dropFirstBreak (cs : List Char) : List Char := (lineBreak? cs).getD cs

def quotedString? : List Char → Option (List Char × List Char)
  | '"' :: '"' :: '"' :: rest => longBasicString .text (dropFirstBreak rest)
  | '"' :: rest => basicString rest
  | '\'' :: '\'' :: '\'' :: rest => longLiteralString (dropFirstBreak rest)
  | '\'' :: rest => literalString rest
  | _ => none

def simpleKey? : List Char → Option (List Char × List Char)
  | '"' :: rest => basicString rest
  | '\'' :: rest => literalString rest
  | cs =>
    match cs.takeWhile isKeyChar with
    | [] => none
    | key => some (key, cs.dropWhile isKeyChar)

/-- Reads a dotted key of at most `room` parts and the blanks around them. -/
def keyPath? : Nat → List Char → Option (List String × List Char)
  | 0, _ => none
  | room + 1, cs => do
    let (key, rest) ← simpleKey? (skipBlanks cs)
    match skipBlanks rest with
    | '.' :: rest => do
      let (path, rest) ← keyPath? room rest
      return (String.ofList key :: path, rest)
    | rest => return ([String.ofList key], rest)

end HostCall.Toml
