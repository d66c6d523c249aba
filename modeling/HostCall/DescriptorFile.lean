import HostCall.Descriptor
import HostCall.Json.Record

/-!
Reading descriptor files. The types, functions and parameters are records; what may be left out has
a default, and of what is left out though it may not the first in the record's own order is
reported at the record's end. A function's name, return type and status are looked at only when the
whole function has been read.
-/
namespace HostCall

open Json

/-- A category: its word, or an object with the word as its only name and null as the value. -/
def Category.ofValue : Value → Reading Category
  | .string (some word) => ofWord word
  | .object ((some word, value) :: rest) ending => do
    let category ← ofWord word
    match value with
    | .null => if rest.isEmpty && ending = .closed then return category else .malformed
    | value => value.refuse "unit"
  | .object [] (.strayKey found) => .mismatch (.invalidType found "variant identifier")
  | _ => .malformed
where
  ofWord (word : String) : Reading Category :=
    match ofKeyword? word with
    | some category => .ok category
    | none => .mismatch (.unknownVariant word (all.map keyword))

/-- A status: its word, or an object with the word as its only name and no value to speak of. -/
def CallStatus.ofValue : Value → Reading CallStatus
  | .string (some word) => ofWord word
  | .object [(some word, value)] _ => do
    let status ← ofWord word
    match value with
    | .null | .object [] _ => return status
    | value => value.refuse "unit"
  | .object _ _ => .mismatch .notSingleKey
  | t => t.refuse "string or map"
where
  ofWord (word : String) : Reading CallStatus :=
    match ofKeyword? word with
    | some status => .ok status
    | none => .mismatch (.unknownVariant word (all.map keyword))

structure TypeDraft where
  name : Option String := none
  category : Option Category := none

namespace TypeEntry

def fields : List (Field Value TypeDraft) := [
  .ofReader "name" (·.name.isSome) readString fun d x => { d with name := some x },
  .ofReader "category" (·.category.isSome) Category.ofValue fun d x => { d with category := some x }]

def ofDraft (d : TypeDraft) : Reading TypeEntry := do
  let name ← Reading.require "name" d.name
  let category ← Reading.require "category" d.category
  return { name, category }

def ofValue : Value → Reading TypeEntry := readRecord "struct TypeInfo" fields {} ofDraft

end TypeEntry

structure ParamDraft where
  name : Option String := none
  type : Option String := none
  isPointer : Option Bool := none
  isDoublePointer : Option Bool := none
  guestValue : Option String := none
  hostValue : Option String := none

namespace Param

def fields : List (Field Value ParamDraft) := [
  .ofReader "name" (·.name.isSome) readString fun d x => { d with name := some x },
  .ofReader "type" (·.type.isSome) readString fun d x => { d with type := some x },
  .ofReader "is_pointer" (·.isPointer.isSome) readBool
    (fun d x => { d with isPointer := some x }) true,
  .ofReader "is_double_pointer" (·.isDoublePointer.isSome) readBool
    (fun d x => { d with isDoublePointer := some x }) true,
  .ofReader "param_arg" (·.guestValue.isSome) readString fun d x => { d with guestValue := some x },
  .ofReader "name_in_function" (·.hostValue.isSome) readString
    (fun d x => { d with hostValue := some x }) true]

def ofDraft (d : ParamDraft) : Reading Param := do
  let name ← Reading.require "name" d.name
  let type ← Reading.require "type" d.type
  let guestValue ← Reading.require "param_arg" d.guestValue
  return { name, type, guestValue
           isPointer := d.isPointer.getD false
           isDoublePointer := d.isDoublePointer.getD false
           hostValue := d.hostValue.getD "" }

def ofValue : Value → Reading Param := readRecord "struct VkParam" fields {} ofDraft

end Param

structure SignatureDraft where
  name : Option String := none
  returnType : Option (Option String) := none
  status : Option (Option CallStatus) := none

namespace Signature

def fields : List (Field Value SignatureDraft) := [
  .ofReader "name" (·.name.isSome) readString fun d x => { d with name := some x },
  .ofReader "return_type" (·.returnType.isSome) (readNullable readString)
    fun d x => { d with returnType := some (nonVoid x) },
  .ofReader "status" (·.status.isSome) (readNullable CallStatus.ofValue)
    fun d x => { d with status := some x }]

def ofDraft (d : SignatureDraft) : Reading Signature := do
  let name ← Reading.require "name" d.name
  return { name, returnType := d.returnType.getD none, status := d.status.getD none }

def ofMembers (members : List (Option String × Value)) : Reading Signature := do
  ofDraft (← readMembers fields members {})

end Signature

namespace HostFunction

/-- How deep arrays and objects may be nested in a member that is kept for later. -/
def nestingRoom : Nat := 124

/--
Goes through the members of a function: reads the parameters, which may come once, and sets aside
the other members.
-/
def splitMembers : List (Option String × Value) → Option (List Param) →
    Reading (Option (List Param) × List (Option String × Value))
  | [], params => .ok (params, [])
  | (none, _) :: _, _ => .malformed
  | (some key, value) :: rest, params =>
    if key = "params" then
      if params.isSome then .mismatch (.duplicateField key)
      else do splitMembers rest (some (← readList Param.ofValue value))
    else if value.isReadable nestingRoom then do
      let (params, others) ← splitMembers rest params
      return (params, (some key, value) :: others)
    else .malformed

def ofValue : Value → Reading HostFunction
  | .object members ending => do
    let (params, others) ← splitMembers members none
    if ending = .closed then
      let signature ← Signature.ofMembers others
      return { toSignature := signature, params := params.getD [] }
    else .malformed
  | t => t.refuse "struct VkFunction"

end HostFunction

structure DescriptorsDraft where
  types : Option (List TypeEntry) := none
  functions : Option (List HostFunction) := none

namespace Descriptors

def fields : List (Field Value DescriptorsDraft) := [
  .ofReader "types" (·.types.isSome) (readList TypeEntry.ofValue)
    (fun d x => { d with types := some x }) true,
  .ofReader "functions" (·.functions.isSome) (readList HostFunction.ofValue)
    (fun d x => { d with functions := some x }) true]

def ofDraft (d : DescriptorsDraft) : Reading Descriptors :=
  .ok { types := d.types.getD [], functions := d.functions.getD [] }

def ofValue : Value → Reading Descriptors := readRecord "struct DescriptorFile" fields {} ofDraft

def ofJson (text : String) : Reading Descriptors := do
  let (value, atEnd) := Value.ofText text
  let descriptors ← ofValue value
  if atEnd then return descriptors.normalize else .malformed

end Descriptors

end HostCall
