import HostCall.Text.Quoted

/-!
Why a text is refused: it is not in its format, or it says something else than was expected of it.
-/
namespace HostCall

inductive Found where
  | null
  | boolean (value : Bool)
  | integer (value : Int)
  /-- A number that is not an integer, as messages spell it. -/
  | real (spelling : String)
  | string (value : String)
  | sequence
  | map
  deriving DecidableEq, Repr

def Found.message : Found → String
  | null => "null"
  | boolean value => "boolean `" ++ toString value ++ "`"
  | integer value => "integer `" ++ toString value ++ "`"
  | real spelling => "floating point `" ++ spelling ++ "`"
  | string value => "string " ++ Text.quote value
  | sequence => "sequence"
  | map => "map"

inductive Mismatch where
  | missingField (name : String)
  | duplicateField (name : String)
  | unknownVariant (found : String) (variants : List String)
  | invalidType (found : Found) (expected : String)
  /-- A list that stands for a record ends before the field at this position. -/
  | invalidLength (position : Nat) (expected : String)
  | notSingleKey
  | notStringOrTable
  | noElement
  | severalElements
  | notTable (found : String)
  | notEmptyTable
  | notEmptyArray
  deriving DecidableEq, Repr

/-- A choice of words, each in back quotes. -/
def oneOf (words : List String) : String :=
  let quoted := words.map fun word => "`" ++ word ++ "`"
  match quoted with
  | [one] => one
  | [one, other] => one ++ " or " ++ other
  | _ => "one of " ++ ", ".intercalate quoted

def Mismatch.message : Mismatch → String
  | missingField name => "missing field `" ++ name ++ "`"
  | duplicateField name => "duplicate field `" ++ name ++ "`"
  | unknownVariant found variants =>
    "unknown variant `" ++ found ++ "`, expected " ++ oneOf variants
  | invalidType found expected => "invalid type: " ++ found.message ++ ", expected " ++ expected
  | invalidLength position expected =>
    "invalid length " ++ toString position ++ ", expected " ++ expected
  | notSingleKey => "invalid value: map, expected map with a single key"
  | notStringOrTable => "wanted string or table"
  | noElement => "wanted exactly 1 element, found 0 elements"
  | severalElements => "wanted exactly 1 element, more than 1 element"
  | notTable found => "expected table, found " ++ found
  | notEmptyTable => "expected empty table"
  | notEmptyArray => "expected empty array"

inductive Refusal where
  /-- The text is not in its format, or not as far as it was read. -/
  | malformed
  | mismatch (m : Mismatch)
  deriving DecidableEq, Repr

abbrev Reading (α : Type) := Except Refusal α

namespace Reading

def malformed {α : Type} : Reading α := .error .malformed

def mismatch {α : Type} (m : Mismatch) : Reading α := .error (.mismatch m)

/-- The value of a field that has to be there. -/
def require {α : Type} (name : String) : Option α → Reading α
  | some value => .ok value
  | none => mismatch (.missingField name)

end Reading

end HostCall
