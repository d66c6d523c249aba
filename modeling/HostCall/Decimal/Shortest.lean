/-!
The shortest decimal that reads back as a given binary floating-point number, and its layout.
A number is the interval of reals that round to it; of the decimals with the fewest digits in that
interval the one nearest to the number is chosen.
-/
namespace HostCall

/-- The value `digits * 10 ^ exponent`. -/
structure Decimal where
  digits : Nat
  exponent : Int
  deriving DecidableEq, Repr

namespace Decimal

/-- The quotient `num / den` with the numbers whose rounding interval it is the centre of. -/
structure Interval where
  low : Nat
  value : Nat
  high : Nat
  /-- The common denominator. -/
  den : Nat
  /-- Whether the ends belong to the interval. -/
  closed : Bool

/-- The interval of a finite positive number `mantissa * 2 ^ exponent`. -/
def Interval.ofBinary (mantissa : Nat) (exponent : Int) : Interval :=
  -- below a power of two the neighbour is half as far away
  let below := if mantissa = Nat.pow 2 52 && exponent > -1074 then 1 else 2
  let scale := Nat.pow 2 (exponent - 2).toNat
  { low := (4 * mantissa - below) * scale
    value := 4 * mantissa * scale
    high := (4 * mantissa + 2) * scale
    den := Nat.pow 2 (2 - exponent).toNat
    closed := mantissa % 2 = 0 }

/-- Compares `digits * 10 ^ exponent` with a numerator over the denominator. -/
def Interval.scaled (i : Interval) (digits : Nat) (exponent : Int) (num : Nat) : Nat × Nat :=
  (digits * Nat.pow 10 exponent.toNat * i.den, num * Nat.pow 10 (-exponent).toNat)

def Interval.contains (i : Interval) (digits : Nat) (exponent : Int) : Bool :=
  let (fromLow, low) := i.scaled digits exponent i.low
  let (fromHigh, high) := i.scaled digits exponent i.high
  if i.closed then low ≤ fromLow && fromHigh ≤ high else low < fromLow && fromHigh < high

/-- The greatest power of ten that is not above the value, searched for from `power` downwards. -/
def Interval.leadingPower (i : Interval) : Nat → Int → Int
  | 0, power => power
  | fuel + 1, power =>
    let (grid, value) := i.scaled 1 power i.value
    if grid ≤ value then power else i.leadingPower fuel (power - 1)

/-- The better of the value's two neighbours among the multiples of `10 ^ exponent`, if one reads back. -/
def Interval.onGrid (i : Interval) (exponent : Int) : Option Decimal :=
  let grid := Nat.pow 10 exponent.toNat * i.den
  let value := i.value * Nat.pow 10 (-exponent).toNat
  let below := value / grid
  let nearer := if 2 * (value - below * grid) ≤ grid then below else below + 1
  let farther := if nearer = below then below + 1 else below
  if i.contains nearer exponent then some ⟨nearer, exponent⟩
  else if i.contains farther exponent then some ⟨farther, exponent⟩
  else none

def Interval.search (i : Interval) : Nat → Int → Decimal
  | 0, exponent => ⟨i.value / i.den, exponent⟩
  | fuel + 1, exponent =>
    match i.onGrid exponent with
    | some d => d
    | none => i.search fuel (exponent - 1)

def trim : Nat → Decimal → Decimal
  | 0, d => d
  | fuel + 1, d =>
    if d.digits ≠ 0 && d.digits % 10 = 0 then trim fuel ⟨d.digits / 10, d.exponent + 1⟩ else d

/-- The shortest decimal of `mantissa * 2 ^ exponent`, a positive number. -/
def shortest (mantissa : Nat) (exponent : Int) : Decimal :=
  let i := Interval.ofBinary mantissa exponent
  (i.search 20 (i.leadingPower 700 309)).trim 400

structure Layout where
  /--
  Numbers are written out in full if their decimal point comes after this place and not after
  the other, counted from the first digit; all are if there are no such places.
  -/
  full : Option (Int × Int) := none

def writeFull (digits : List Char) (exponent : Int) : List Char :=
  let point := digits.length + exponent
  if 0 ≤ exponent then digits ++ List.replicate exponent.toNat '0' ++ ['.', '0']
  else if 0 < point then digits.take point.toNat ++ '.' :: digits.drop point.toNat
  else '0' :: '.' :: List.replicate (-point).toNat '0' ++ digits

def writeScientific (digits : List Char) (exponent : Int) : List Char :=
  let power := digits.length + exponent - 1
  let fraction := match digits.drop 1 with
    | [] => []
    | rest => '.' :: rest
  digits.take 1 ++ fraction ++ 'e' :: (toString power).toList

def Layout.write (layout : Layout) (d : Decimal) : List Char :=
  let digits := Nat.toDigits 10 d.digits
  let point := digits.length + d.exponent
  match layout.full with
  | none => writeFull digits d.exponent
  | some (after, last) =>
    if after < point && point ≤ last then writeFull digits d.exponent
    else writeScientific digits d.exponent

/-- The spelling of a number, with the fewest digits that read back. -/
def Layout.spell (layout : Layout) (x : Float) : String :=
  let bits := x.toBits.toNat
  let sign := if bits / Nat.pow 2 63 = 1 then "-" else ""
  let biased : Nat := bits / Nat.pow 2 52 % Nat.pow 2 11
  let fraction : Nat := bits % Nat.pow 2 52
  if biased = Nat.pow 2 11 - 1 then if fraction = 0 then sign ++ "inf" else "NaN"
  else if biased = 0 && fraction = 0 then sign ++ "0.0"
  else
    let d := if biased = 0 then shortest fraction (-1074)
      else shortest (Nat.pow 2 52 + fraction) ((biased : Int) - 1075)
    sign ++ String.ofList (layout.write d)

end Decimal

end HostCall
