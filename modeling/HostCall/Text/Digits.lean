/-!
Numbers written in digits.
-/
namespace HostCall.Text

def decimalValue (c : Char) : Nat := c.toNat - '0'.toNat

def ofDecimal (digits : List Char) : Nat :=
  digits.foldl (fun n c => 10 * n + decimalValue c) 0

def hexValue? (c : Char) : Option Nat :=
  if '0' ≤ c && c ≤ '9' then some (c.toNat - '0'.toNat)
  else if 'a' ≤ c && c ≤ 'f' then some (c.toNat - 'a'.toNat + 10)
  else if 'A' ≤ c && c ≤ 'F' then some (c.toNat - 'A'.toNat + 10)
  else none

def isHexDigit (c : Char) : Bool := (hexValue? c).isSome

/-- The number that digits to a base of at most sixteen stand for, if all are digits. -/
def ofDigits? (base : Nat) (digits : List Char) : Option Nat :=
  digits.foldlM (fun n c => (hexValue? c).map (base * n + ·)) 0

end HostCall.Text
