import HostCall.Decimal.Shortest
import HostCall.Mismatch
import HostCall.Text.Digits

/-!
Numbers in JSON text. Integers are those of 64 bits, signed or unsigned; every other number is a
binary floating-point number, and one beyond its range is not a number.
-/
namespace HostCall.Json

structure Numeral where
  negative : Bool := false
  whole : List Char
  fraction : List Char := []
  /-- Whether the exponent is negative, and its digits. -/
  exponent : Option (Bool × List Char) := none
  deriving DecidableEq, Repr

namespace Numeral

def scanExponent (negative : Bool) (cs : List Char) : Option ((Bool × List Char) × List Char) :=
  match cs.takeWhile Char.isDigit with
  | [] => none
  | digits => some ((negative, digits), cs.dropWhile Char.isDigit)

/-- Reads the exponent of a number, if there is one; there is no number if it lacks digits. -/
def scanScale (n : Numeral) : List Char → Option (Numeral × List Char)
  | mark :: cs =>
    if mark == 'e' || mark == 'E' then
      let exponent := match cs with
        | '+' :: cs => scanExponent false cs
        | '-' :: cs => scanExponent true cs
        | cs => scanExponent false cs
      exponent.map fun (e, rest) => ({ n with exponent := some e }, rest)
    else some (n, mark :: cs)
  | [] => some (n, [])

def scanFraction (n : Numeral) : List Char → Option (Numeral × List Char)
  | '.' :: cs =>
    match cs.takeWhile Char.isDigit with
    | [] => none
    | digits => { n with fraction := digits }.scanScale (cs.dropWhile Char.isDigit)
  | cs => n.scanScale cs

def scanUnsigned (negative : Bool) (cs : List Char) : Option (Numeral × List Char) :=
  match cs.takeWhile Char.isDigit with
  | [] => none
  | '0' :: _ :: _ => none
  | digits => scanFraction { negative, whole := digits } (cs.dropWhile Char.isDigit)

/-- Reads a number: no zero stands before other digits, and a point has digits on both sides. -/
def scan : List Char → Option (Numeral × List Char)
  | '-' :: cs => scanUnsigned true cs
  | cs => scanUnsigned false cs

/-- A decimal with as many leading digits as fit in 64 bits. -/
structure Significand where
  value : Nat
  /-- The power of ten it is multiplied with. -/
  scale : Int
  deriving DecidableEq, Repr

def fits (value : Nat) : Bool := value < UInt64.size

/-- Takes up the digits before the point; those that no longer fit count as powers of ten. -/
def takeWhole (s : Significand) : List Char → Significand
  | [] => s
  | c :: rest =>
    let next := 10 * s.value + Text.decimalValue c
    if s.scale = 0 && fits next then takeWhole { s with value := next } rest
    else { s with scale := rest.length + 1 }

/-- Takes up digits after the point for as long as they fit. -/
def takeFraction (s : Significand) : List Char → Significand
  | [] => s
  | c :: rest =>
    let next := 10 * s.value + Text.decimalValue c
    if fits next then takeFraction ⟨next, s.scale - 1⟩ rest else s

/-- Divides by powers of ten that a number can hold, as far as it takes. -/
def scaleDown : Nat → Float → Nat → Float
  | 0, x, _ => x
  | fuel + 1, x, power =>
    if x == 0 then x
    else if power ≤ 308 then x / Float.ofScientific 1 false power
    else scaleDown fuel (x / 1e308) (power - 308)

/-- The magnitude of a significand times a power of ten; `none` beyond the range. -/
def magnitude (value : Nat) (scale : Int) : Option Float :=
  let x := Float.ofNat value
  if scale < 0 then some (scaleDown 4 x scale.natAbs)
  else if 308 < scale then if value = 0 then some x else none
  else
    let y := x * Float.ofScientific 1 false scale.toNat
    if y.isInf then none else some y

/-- Whether an exponent is too large to be counted with. -/
def exceeds (exponent : Nat) : Bool := Nat.pow 2 31 ≤ exponent

def toFloat? (n : Numeral) : Option Float :=
  let s := takeFraction (takeWhole ⟨0, 0⟩ n.whole) n.fraction
  match n.exponent with
  | none => magnitude s.value s.scale
  | some (down, digits) =>
    let exponent := Text.ofDecimal digits
    if exceeds exponent then if s.value ≠ 0 && !down then none else some 0
    else magnitude s.value (if down then s.scale - exponent else s.scale + exponent)

/-- Floating-point numbers from 10⁻⁵ up to 10¹⁶ are written out in full. -/
def layout : Decimal.Layout := { full := some (-5, 16) }

def isInteger (n : Numeral) : Bool := n.fraction.isEmpty && n.exponent.isNone

/-- What the number is in messages; `none` beyond the range. Minus zero is no integer. -/
def found? (n : Numeral) : Option Found :=
  let value := Text.ofDecimal n.whole
  if n.isInteger && !n.negative && fits value then some (.integer value)
  else if n.isInteger && n.negative && 0 < value && value ≤ Nat.pow 2 63 then
    some (.integer (-value))
  else
    n.toFloat?.map fun x => .real (layout.spell (if n.negative then -x else x))

end Numeral

end HostCall.Json
