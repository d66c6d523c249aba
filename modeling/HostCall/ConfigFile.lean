import HostCall.Settings
import HostCall.Toml.Document
import HostCall.Toml.Record

/-!
Reading configuration files. The paths have to be stated; of everything else what is not stated has
its default, key by key. Unknown keys are passed over.
-/
namespace HostCall

open Toml

/-- A policy: its word, or a table with the word as its only key and nothing as the value. -/
def Policy.ofItem : Item → Reading Policy
  | .string word => ofWord word
  | .table _ [] => .mismatch .noElement
  | .table _ [(word, value)] => do
    let policy ← ofWord word
    match value with
    | .table _ [] | .array [] | .tables [] => return policy
    | .table .. | .array _ => .mismatch .notEmptyTable
    | .tables _ => .mismatch .notEmptyArray
    | other => .mismatch (.notTable other.kind)
  | .table .. => .mismatch .severalElements
  | _ => .mismatch .notStringOrTable
where
  ofWord (word : String) : Reading Policy :=
    match ofKeyword? word with
    | some policy => .ok policy
    | none => .mismatch (.unknownVariant word (all.map keyword))

namespace Settings

/-- A setting is not read twice, because a table has each key once. -/
def setting (name : String) (set : Settings → String → Settings) : Field Item Settings :=
  .ofReader name (fun _ => false) readString set true

def fields : List (Field Item Settings) := [
  setting "wrapper_prefix" fun s x => { s with wrapperPrefix := x },
  setting "marshal_context" fun s x => { s with marshalContext := x },
  setting "memory_accessor" fun s x => { s with memoryAccessor := x },
  setting "dispatch_prefix" fun s x => { s with dispatchPrefix := x },
  setting "status_local" fun s x => { s with statusLocal := x },
  setting "success_value" fun s x => { s with successValue := x },
  setting "log_fn" fun s x => { s with logFunction := x },
  setting "map_fn" fun s x => { s with mapFunction := x },
  setting "guest_write" fun s x => { s with guestWrite := x },
  setting "return_store" fun s x => { s with returnStore := x },
  setting "placeholder" fun s x => { s with placeholder := x }]

def ofItem : Item → Reading Settings := readRecord "struct EmitSettings" fields {} .ok

end Settings

structure MappingDraft where
  function : Option String := none
  param : Option String := none
  handle : Option String := none
  size : Option String := none
  guestOut : Option String := none

namespace Mapping

def fields : List (Field Item MappingDraft) := [
  .ofReader "function" (·.function.isSome) readString fun d x => { d with function := some x },
  .ofReader "param" (·.param.isSome) readString fun d x => { d with param := some x },
  .ofReader "handle" (·.handle.isSome) readString fun d x => { d with handle := some x },
  .ofReader "size" (·.size.isSome) readString fun d x => { d with size := some x },
  .ofReader "guest_out" (·.guestOut.isSome) readString (fun d x => { d with guestOut := some x })
    true]

def ofDraft (d : MappingDraft) : Reading Mapping := do
  let function ← Reading.require "function" d.function
  let param ← Reading.require "param" d.param
  let handle ← Reading.require "handle" d.handle
  let size ← Reading.require "size" d.size
  return { function, param, handle, size, guestOut := d.guestOut }

def ofItem : Item → Reading Mapping := readRecord "struct MapMemoryEntry" fields {} ofDraft

end Mapping

namespace Marshalling

def fields : List (Field Item Marshalling) := [
  .ofReader "excluded_types" (fun _ => false) (readList readString)
    (fun m x => { m with excludedTypes := x }) true,
  .ofReader "on_unsupported" (fun _ => false) Policy.ofItem
    (fun m x => { m with onUnsupported := x }) true,
  .ofReader "map_memory" (fun _ => false) (readList Mapping.ofItem)
    (fun m x => { m with mappings := x }) true]

def ofItem : Item → Reading Marshalling := readRecord "struct MarshalConfig" fields {} .ok

end Marshalling

structure PathsDraft where
  descriptors : Option String := none
  out : Option String := none

namespace Paths

def fields : List (Field Item PathsDraft) := [
  .ofReader "descriptors" (·.descriptors.isSome) readString
    fun d x => { d with descriptors := some x },
  .ofReader "out" (·.out.isSome) readString fun d x => { d with out := some x }]

def ofDraft (d : PathsDraft) : Reading Paths := do
  let descriptors ← Reading.require "descriptors" d.descriptors
  let out ← Reading.require "out" d.out
  return { descriptors, out }

def ofItem : Item → Reading Paths := readRecord "struct CodegenPaths" fields {} ofDraft

end Paths

structure ConfigDraft where
  paths : Option Paths := none
  settings : Option Settings := none
  marshalling : Option Marshalling := none

structure ConfigFileDraft where
  codegen : Option Config := none

namespace Config

def fields : List (Field Item ConfigDraft) := [
  .ofReader "paths" (·.paths.isSome) Paths.ofItem fun d x => { d with paths := some x },
  .ofReader "emit" (·.settings.isSome) Settings.ofItem (fun d x => { d with settings := some x })
    true,
  .ofReader "marshal" (·.marshalling.isSome) Marshalling.ofItem
    (fun d x => { d with marshalling := some x }) true]

def ofDraft (d : ConfigDraft) : Reading Config := do
  let paths ← Reading.require "paths" d.paths
  return { paths, settings := d.settings.getD {}, marshalling := d.marshalling.getD {} }

def ofItem : Item → Reading Config := readRecord "struct CodegenConfig" fields {} ofDraft

def fileFields : List (Field Item ConfigFileDraft) := [
  .ofReader "codegen" (·.codegen.isSome) ofItem fun d x => { d with codegen := some x }]

def ofEntries (entries : Entries) : Reading Config := do
  let draft ← readEntries fileFields entries {}
  Reading.require "codegen" draft.codegen

def ofToml (text : String) : Reading Config :=
  match ofText? text with
  | none => .malformed
  | some entries => ofEntries entries

end Config

end HostCall
