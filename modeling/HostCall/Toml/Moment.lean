import HostCall.Text.Digits

/-!
Dates and times in TOML text. They only have to be well formed and to exist in the calendar.
-/
namespace HostCall.Toml

/-- Reads a number of exactly `count` digits. -/
def fixedNumber? (count : Nat) (cs : List Char) : Option (Nat × List Char) :=
  let digits := cs.take count
  if digits.length = count && digits.all Char.isDigit then
    some (Text.ofDecimal digits, cs.drop count)
  else none

/-- Reads a number of two digits that is at least `low` and at most `high`. -/
def twoDigits? (low high : Nat) (cs : List Char) : Option (Nat × List Char) := do
  let (n, rest) ← fixedNumber? 2 cs
  if low ≤ n && n ≤ high then return (n, rest) else none

def mark? (c : Char) : List Char → Option (List Char)
  | d :: rest => if d = c then some rest else none
  | [] => none

def isLeapYear (year : Nat) : Bool := year % 4 = 0 && (year % 100 ≠ 0 || year % 400 = 0)

def daysInMonth (year month : Nat) : Nat :=
  if month = 2 then if isLeapYear year then 29 else 28
  else if month = 4 || month = 6 || month = 9 || month = 11 then 30
  else 31

def date? (cs : List Char) : Option (List Char) := do
  let (year, cs) ← fixedNumber? 4 cs
  let cs ← mark? '-' cs
  let (month, cs) ← twoDigits? 1 12 cs
  let cs ← mark? '-' cs
  let (_, cs) ← twoDigits? 1 (daysInMonth year month) cs
  return cs

/-- Drops the fraction of a second, if there is one. -/
def skipFraction : List Char → List Char
  | '.' :: c :: rest => if c.isDigit then rest.dropWhile Char.isDigit else '.' :: c :: rest
  | cs => cs

/-- A time of day; a minute may have a leap second. -/
def time? (cs : List Char) : Option (List Char) := do
  let (_, cs) ← twoDigits? 0 23 cs
  let cs ← mark? ':' cs
  let (_, cs) ← twoDigits? 0 59 cs
  let cs ← mark? ':' cs
  let (_, cs) ← twoDigits? 0 60 cs
  return skipFraction cs

def offset? : List Char → Option (List Char)
  | 'Z' :: rest | 'z' :: rest => some rest
  | '+' :: rest | '-' :: rest => do
    let (_, rest) ← twoDigits? 0 23 rest
    let rest ← mark? ':' rest
    let (_, rest) ← twoDigits? 0 59 rest
    return rest
  | _ => none

/-- Reads a date, a time of day, or both with or without an offset. -/
def moment? (cs : List Char) : Option (List Char) :=
  match date? cs with
  | none => time? cs
  | some rest =>
    match rest with
    | delimiter :: afterDelimiter =>
      if delimiter == 'T' || delimiter == 't' || delimiter == ' ' then
        match time? afterDelimiter with
        | some rest => some ((offset? rest).getD rest)
        | none => some rest
      else some rest
    | [] => some []

end HostCall.Toml
