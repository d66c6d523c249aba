import HostCall.Json.Value
import HostCall.Record

/-!
Reading records and lists from JSON values in the order of their text. A record is an object, whose
members may come in any order and may have names that the record does not know, or an array of its
fields in their order. The first thing found wrong is the one that is reported.
-/
namespace HostCall.Json

/-- Reads the members of an object; those of unknown names only have to be well formed. -/
def readMembers {σ : Type} (fields : List (Field Value σ)) :
    List (Option String × Value) → σ → Reading σ
  | [], draft => .ok draft
  | (none, _) :: _, _ => .malformed
  | (some key, value) :: rest, draft =>
    match Field.named? fields key with
    | none => if value.isComplete then readMembers fields rest draft else .malformed
    | some field =>
      if field.isRead draft then .mismatch (.duplicateField key)
      else do readMembers fields rest (← field.read value draft)

/-- Reads a record; `expected` is its name in messages. -/
def readRecord {σ α : Type} (expected : String) (fields : List (Field Value σ)) (start : σ)
    (finish : σ → Reading α) : Value → Reading α
  | .object members ending => do
    let draft ← readMembers fields members start
    if ending = .closed then finish draft else .malformed
  | .array items closed => do
    let (draft, others) ←
      Field.readItems (Field.listName expected fields) closed 0 fields items start
    if others.isEmpty && closed then finish draft else .malformed
  | t => t.refuse expected

def readList {α : Type} (read : Value → Reading α) : Value → Reading (List α)
  | .array items closed => do
    let values ← items.mapM read
    if closed then return values else .malformed
  | t => t.refuse "a sequence"

def readString : Value → Reading String
  | .string (some value) => .ok value
  | t => t.refuse "a string"

def readBool : Value → Reading Bool
  | .bool value => .ok value
  | t => t.refuse "a boolean"

def readNullable {α : Type} (read : Value → Reading α) : Value → Reading (Option α)
  | .null => .ok none
  | t => (read t).map some

end HostCall.Json
