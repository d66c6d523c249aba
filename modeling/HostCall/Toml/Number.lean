import HostCall.Decimal.Shortest
import HostCall.Text.Digits
import HostCall.Toml.Item

/-!
Numbers in TOML text. Single underscores may stand between digits; decimal numbers have no zeros in
front. Integers have 64 bits with a sign.
-/
namespace HostCall.Toml

/-- Reads digits after a first one, with single underscores between them, which are dropped. -/
def digitRun (isDigit : Char → Bool) : List Char → List Char × List Char
  | '_' :: c :: rest =>
    if isDigit c then
      let (digits, rest) := digitRun isDigit rest
      (c :: digits, rest)
    else ([], '_' :: c :: rest)
  | c :: rest =>
    if isDigit c then
      let (digits, rest) := digitRun isDigit rest
      (c :: digits, rest)
    else ([], c :: rest)
  | [] => ([], [])

def digits? (isDigit : Char → Bool) : List Char → Option (List Char × List Char)
  | c :: rest =>
    if isDigit c then
      let (digits, rest) := digitRun isDigit rest
      some (c :: digits, rest)
    else none
  | [] => none

/-- Reads the digits of a decimal number; a zero stands alone. -/
def decimal? : List Char → Option (List Char × List Char)
  | '0' :: rest => some (['0'], rest)
  | cs => digits? Char.isDigit cs

/-- Reads a sign, if there is one, and says whether it is a minus. -/
def sign : List Char → Bool × List Char
  | '-' :: rest => (true, rest)
  | '+' :: rest => (false, rest)
  | cs => (false, cs)

def inRange (n : Int) : Bool :=
  let bound : Int := Nat.pow 2 63
  n < bound && -bound ≤ n

/-- An integer in a base that is named before it. -/
def based? (base : Nat) (isDigit : Char → Bool) (cs : List Char) : Option (Item × List Char) := do
  let (digits, rest) ← digits? isDigit cs
  let n ← Text.ofDigits? base digits
  if inRange n then return (.integer n, rest) else none

def integer? : List Char → Option (Item × List Char)
  | '0' :: 'x' :: rest => based? 16 Text.isHexDigit rest
  | '0' :: 'o' :: rest => based? 8 (fun c => '0' ≤ c && c ≤ '7') rest
  | '0' :: 'b' :: rest => based? 2 (fun c => c == '0' || c == '1') rest
  | cs => do
    let (negative, cs) := sign cs
    let (digits, rest) ← decimal? cs
    let n : Int := Text.ofDecimal digits
    let n := if negative then -n else n
    if inRange n then return (.integer n, rest) else none

/-- Floating-point numbers are always written out in full. -/
def layout : Decimal.Layout := {}

/-- The number nearest to digits times a power of ten. -/
def nearest (digits : List Char) (power : Int) : Float :=
  let n := Text.ofDecimal digits
  let size := digits.length + power
  if n = 0 || size < -400 then 0
  else if 400 < size && 400 < power then 1 / 0
  else Float.ofScientific n (power < 0) power.natAbs

def fraction? : List Char → Option (List Char × List Char)
  | '.' :: rest => digits? Char.isDigit rest
  | _ => none

def exponent? : List Char → Option (Int × List Char)
  | mark :: rest =>
    if mark == 'e' || mark == 'E' then do
      let (negative, rest) := sign rest
      let (digits, rest) ← digits? Char.isDigit rest
      let n : Int := Text.ofDecimal digits
      return (if negative then -n else n, rest)
    else none
  | [] => none

/-- A floating-point number; one above the range is refused, and one below it is infinite. -/
def real? (cs : List Char) : Option (Item × List Char) := do
  let (negative, cs) := sign cs
  let (whole, rest) ← decimal? cs
  let (fraction, power, rest) ← match fraction? rest with
    | some (fraction, rest) =>
      match exponent? rest with
      | some (power, rest) => some (fraction, power, rest)
      | none => some (fraction, 0, rest)
    | none => (exponent? rest).map fun (power, rest) => ([], power, rest)
  let x := nearest (whole ++ fraction) (power - fraction.length)
  if x.isInf && !negative then none
  else return (.real (layout.spell (if negative then -x else x)), rest)

/-- Infinity, and what is not a number. -/
def special? (cs : List Char) : Option (Item × List Char) :=
  let (negative, cs) := sign cs
  match cs with
  | 'i' :: 'n' :: 'f' :: rest => some (.real (if negative then "-inf" else "inf"), rest)
  | 'n' :: 'a' :: 'n' :: rest => some (.real "NaN", rest)
  | _ => none

end HostCall.Toml
