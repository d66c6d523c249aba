import HostCall.Unsupported

/-!
What a run reports while it goes on.
-/
namespace HostCall

inductive Level where
  | debug
  | info
  | warn
  deriving DecidableEq, Repr

def Level.label : Level → String
  | debug => "DEBUG"
  | info => "INFO"
  | warn => "WARN"

inductive Event where
  /-- Null is passed for a type that the host cannot represent. -/
  | nullPassed (type function param : String)
  | emitted (function : String) (params : Nat)
  | unregistered (type : String)
  | skipping (fault : Unsupported)
  | loading (path : String)
  | loaded (types functions : Nat)
  | generating
  | verifying
  | finished (wrappers skipped types : Nat)
  deriving DecidableEq, Repr

/-- The value of a named detail of an event. -/
inductive Detail where
  | text (value : String)
  | count (value : Nat)
  deriving DecidableEq, Repr

namespace Event

def level : Event → Level
  | nullPassed .. | skipping _ => .warn
  | emitted .. | unregistered _ => .debug
  | loading _ | loaded .. | generating | verifying | finished .. => .info

def message : Event → String
  | nullPassed type _ _ => type ++ " is not implemented; generated wrappers pass NULL"
  | emitted .. => "emitted wrapper"
  | unregistered _ => "staged marshal-in for unregistered type"
  | skipping fault => "skipping " ++ fault.function ++ ": " ++ fault.message
  | loading path => "loading descriptors from " ++ path
  | loaded types functions => s!"loaded {types} types, {functions} functions"
  | generating => "generating wrappers..."
  | verifying => "verifying output..."
  | finished wrappers skipped types =>
    s!"OK: {wrappers} wrappers, {skipped} skipped, {types} marshal-in types"

def details : Event → List (String × Detail)
  | nullPassed _ function param => [("function", .text function), ("param", .text param)]
  | emitted function params => [("function", .text function), ("params", .count params)]
  | unregistered type => [("type_name", .text type)]
  | skipping _ | loading _ | loaded .. | generating | verifying | finished .. => []

end Event

end HostCall
