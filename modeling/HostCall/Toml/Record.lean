import HostCall.Record
import HostCall.Toml.Item

/-!
Reading records and lists from the items of a TOML document. A record is a table, whose keys are
taken in their order and may include unknown ones, or an array of its fields in their order, after
which anything may follow.
-/
namespace HostCall.Toml

namespace Item

def found : Item → Found
  | string value => .string value
  | integer value => .integer value
  | real spelling => .real spelling
  | boolean value => .boolean value
  | array _ | tables _ => .sequence
  | datetime | table .. => .map

def kind : Item → String
  | string _ => "string"
  | integer _ => "integer"
  | real _ => "float"
  | boolean _ => "boolean"
  | datetime => "datetime"
  | array _ => "array"
  | tables _ => "array of tables"
  | table .inline _ => "inline table"
  | table .. => "table"

def refuse {α : Type} (expected : String) (item : Item) : Reading α :=
  .mismatch (.invalidType item.found expected)

end Item

def readEntries {σ : Type} (fields : List (Field Item σ)) : Entries → σ → Reading σ
  | [], draft => .ok draft
  | (key, item) :: rest, draft =>
    match Field.named? fields key with
    | none => readEntries fields rest draft
    | some field => do readEntries fields rest (← field.read item draft)

/-- Reads a record; `expected` is its name in messages. A date counts as a table of unknown keys. -/
def readRecord {σ α : Type} (expected : String) (fields : List (Field Item σ)) (start : σ)
    (finish : σ → Reading α) (item : Item) : Reading α :=
  match item with
  | .table _ entries => do finish (← readEntries fields entries start)
  | .datetime => finish start
  | .array items => ofList items
  | .tables elements => ofList (elements.map (.table .header))
  | item => item.refuse expected
where
  ofList (items : List Item) : Reading α := do
    let (draft, _) ← Field.readItems (Field.listName expected fields) true 0 fields items start
    finish draft

def readList {α : Type} (read : Item → Reading α) : Item → Reading (List α)
  | .array items => items.mapM read
  | .tables elements => elements.mapM fun entries => read (.table .header entries)
  | item => item.refuse "a sequence"

def readString : Item → Reading String
  | .string value => .ok value
  | item => item.refuse "a string"

end HostCall.Toml
