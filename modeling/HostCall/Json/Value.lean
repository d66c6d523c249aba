import HostCall.Json.Token

/-!
JSON values, as far as their text can be read. Arrays and objects hold what was read of them and say
whether their end was reached, so a reader that goes through a value in the order of its text meets
a defect of the text where it stands, after all that comes before it.
-/
namespace HostCall.Json

inductive Ending where
  | closed
  /-- The text is defective after the last member. -/
  | broken
  /-- Something other than a string stands where a member's name should. -/
  | strayKey (found : Found)
  deriving DecidableEq, Repr

inductive Value where
  | null
  | bool (value : Bool)
  | number (n : Numeral)
  | string (value : Option String)
  | array (items : List Value) (closed : Bool)
  | object (members : List (Option String × Value)) (ending : Ending)
  /-- A place where no value can be read. -/
  | broken
  deriving Repr

namespace Value

/-- What a token tells of the value that begins with it. -/
def foundAt? : Token → Option Found
  | .null => some .null
  | .bool value => some (.boolean value)
  | .number n => n.found?
  | .string value => value.map .string
  | .openArray => some .sequence
  | .openObject => some .map
  | .closeArray | .closeObject | .comma | .colon | .junk => none

mutual

/-- Reads a value, and gives the tokens after it; after a defect there are none. -/
def read : Nat → List Token → Value × List Token
  | fuel + 1, .openArray :: rest =>
    match rest with
    | .closeArray :: rest => (.array [] true, rest)
    | _ =>
      let (items, closed, rest) := readItems fuel rest
      (.array items closed, rest)
  | fuel + 1, .openObject :: rest =>
    match rest with
    | .closeObject :: rest => (.object [] .closed, rest)
    | _ =>
      let (members, ending, rest) := readMembers fuel rest
      (.object members ending, rest)
  | _ + 1, .null :: rest => (.null, rest)
  | _ + 1, .bool value :: rest => (.bool value, rest)
  | _ + 1, .number n :: rest => (.number n, rest)
  | _ + 1, .string value :: rest => (.string value, rest)
  | _, _ => (.broken, [])

def readItems : Nat → List Token → List Value × Bool × List Token
  | 0, _ => ([], false, [])
  | fuel + 1, tokens =>
    let (item, rest) := read fuel tokens
    match rest with
    | .comma :: rest =>
      let (items, closed, rest) := readItems fuel rest
      (item :: items, closed, rest)
    | .closeArray :: rest => ([item], true, rest)
    | _ => ([item], false, [])

def readMembers : Nat → List Token → List (Option String × Value) × Ending × List Token
  | fuel + 1, .string key :: .colon :: rest =>
    let (value, rest) := read fuel rest
    match rest with
    | .comma :: rest =>
      let (members, ending, rest) := readMembers fuel rest
      ((key, value) :: members, ending, rest)
    | .closeObject :: rest => ([(key, value)], .closed, rest)
    | _ => ([(key, value)], .broken, [])
  | _ + 1, .string key :: _ => ([(key, .broken)], .broken, [])
  | _ + 1, token :: _ =>
    match foundAt? token with
    | some found => ([], .strayKey found, [])
    | none => ([], .broken, [])
  | _, _ => ([], .broken, [])

end

/-- The value at the start of a text, and whether nothing but blanks follows it. -/
def ofText (text : String) : Value × Bool :=
  let tokens := Token.ofText text.toList
  let (value, rest) := read (2 * tokens.length + 2) tokens
  (value, rest.isEmpty)

mutual

/-- Whether the text of a value has no defect. -/
def isComplete : Value → Bool
  | null | bool _ | number _ | string _ => true
  | array items closed => areComplete items && closed
  | object members ending => membersComplete members && ending == .closed
  | broken => false

def areComplete : List Value → Bool
  | [] => true
  | item :: rest => isComplete item && areComplete rest

def membersComplete : List (Option String × Value) → Bool
  | [] => true
  | (_, value) :: rest => isComplete value && membersComplete rest

end

mutual

/--
Whether a value can be taken in as it is: its strings are text, its numbers are in range, and its
arrays and objects are nested at most `room` deep.
-/
def isReadable (room : Nat) : Value → Bool
  | null | bool _ => true
  | number n => n.found?.isSome
  | string value => value.isSome
  | array items closed => room ≠ 0 && areReadable (room - 1) items && closed
  | object members ending =>
    room ≠ 0 && membersReadable (room - 1) members && ending == .closed
  | broken => false

def areReadable (room : Nat) : List Value → Bool
  | [] => true
  | item :: rest => isReadable room item && areReadable room rest

def membersReadable (room : Nat) : List (Option String × Value) → Bool
  | [] => true
  | (key, value) :: rest => key.isSome && isReadable room value && membersReadable room rest

end

/-- What a value is in messages; `none` if its text is defective where it begins. -/
def found? : Value → Option Found
  | null => some .null
  | bool value => some (.boolean value)
  | number n => n.found?
  | string value => value.map .string
  | array .. => some .sequence
  | object .. => some .map
  | broken => none

def refuse {α : Type} (expected : String) (t : Value) : Reading α :=
  match t.found? with
  | some found => .mismatch (.invalidType found expected)
  | none => .malformed

end Value

end HostCall.Json
