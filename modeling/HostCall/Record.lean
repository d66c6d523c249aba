import HostCall.Mismatch

/-!
Records read from a data format field by field. The fields found fill in a draft; what becomes of a
draft that lacks fields is for the record to say.
-/
namespace HostCall

/-- A field of a record: how it is read from a value of the format into a draft. -/
structure Field (τ σ : Type) where
  name : String
  /-- Whether a draft has the field already. -/
  isRead : σ → Bool
  read : τ → σ → Reading σ
  /-- Whether a record that is written as a list may end before the field. -/
  optional : Bool := false

namespace Field

def named? {τ σ : Type} (fields : List (Field τ σ)) (name : String) : Option (Field τ σ) :=
  fields.find? (·.name == name)

/-- A field that takes its value as it is read. -/
def ofReader {τ σ α : Type} (name : String) (isRead : σ → Bool) (read : τ → Reading α)
    (set : σ → α → σ) (optional : Bool := false) : Field τ σ :=
  { name, isRead, optional, read := fun value draft => (read value).map (set draft) }

/--
Reads a list as a record: the items are the fields from `position` on, in order. Gives the draft
and the items that are left over; `whole` says whether the list's end was reached.
-/
def readItems {τ σ : Type} (expected : String) (whole : Bool) :
    Nat → List (Field τ σ) → List τ → σ → Reading (σ × List τ)
  | _, [], items, draft => .ok (draft, items)
  | position, field :: fields, [], draft =>
    if !whole then .malformed
    else if field.optional then readItems expected whole (position + 1) fields [] draft
    else .mismatch (.invalidLength position expected)
  | position, field :: fields, item :: items, draft => do
    readItems expected whole (position + 1) fields items (← field.read item draft)

/-- The name of a record written as a list. -/
def listName {τ σ : Type} (expected : String) (fields : List (Field τ σ)) : String :=
  expected ++ " with " ++ toString fields.length ++ " elements"

end Field

end HostCall
