import HostCall.Template

/-!
The configuration of a run: where its files are, the names that the generated code uses, and
which parameters need special treatment.
-/
namespace HostCall

/-- The emulator's names that appear in the generated code. -/
structure Settings where
  /-- Stands before the name of every wrapper. -/
  wrapperPrefix : String := "boxed_"
  marshalContext : String := "pBoxedInfo"
  memoryAccessor : String := "cpu->memory"
  /-- Stands before the native function's name in the call. -/
  dispatchPrefix : String := "pBoxedInfo->p"
  /-- The local that holds the native call's result. -/
  statusLocal : String := "result"
  successValue : String := "VK_SUCCESS"
  logFunction : String := "klog"
  mapFunction : String := "mapVkMemory"
  /-- The function that writes a word to guest memory. -/
  guestWrite : String := "cpu->memory->writed"
  /-- The statement that hands a result to the guest, with the mark `{value}` in it. -/
  returnStore : String := "EAX = \x7bvalue\x7d;"
  /-- The local that receives a pointer through a double pointer. -/
  placeholder : String := "pData"
  deriving DecidableEq, Repr, Inhabited

/-- Stands for the value in `Settings.returnStore`. -/
def valueMark : String := "\x7bvalue\x7d"

def Settings.returnStatement (s : Settings) (value : String) : String :=
  Template.instantiate valueMark s.returnStore value

/-- What becomes of a run when a function cannot be wrapped. -/
inductive Policy where
  /-- The function is left out. -/
  | skip
  /-- The run ends. -/
  | abort
  deriving DecidableEq, Repr, Inhabited

namespace Policy

def keyword : Policy → String
  | skip => "skip"
  | abort => "abort"

def all : List Policy := [skip, abort]

def ofKeyword? (word : String) : Option Policy := all.find? (·.keyword == word)

end Policy

/-- A memory range that a native call maps for the guest. -/
structure MappedRange where
  handle : String
  size : String
  /-- The guest address that receives the guest's view of the range, if any. -/
  guestOut : Option String := none
  deriving DecidableEq, Repr, Inhabited

/-- Says that a function returns a mapped range through a parameter. -/
structure Mapping extends MappedRange where
  function : String
  param : String
  deriving DecidableEq, Repr, Inhabited

structure Marshalling where
  /-- Types that the host cannot represent; null is passed for them. -/
  excludedTypes : List String := ["VkAllocationCallbacks"]
  onUnsupported : Policy := .skip
  mappings : List Mapping := []
  deriving DecidableEq, Repr, Inhabited

structure Paths where
  descriptors : String
  out : String
  deriving DecidableEq, Repr, Inhabited

structure Config where
  paths : Paths
  settings : Settings := {}
  marshalling : Marshalling := {}
  deriving DecidableEq, Repr, Inhabited

end HostCall
