import HostCall.Descriptor

/-!
Why no wrapper can be generated for a function.
-/
namespace HostCall

inductive Obstacle where
  | functionNotIdentifier
  /-- The status of a function without a result cannot be compared. -/
  | voidChecked (successValue : String)
  | paramNotIdentifier
  | inconsistentArity
  | statusLocalCollision
  | localDeclaredTwice (name : String)
  | doublePointer
  | notSinglePointer
  | notAnAggregate (type : String) (category : Category)
  | unknownLayout (type : String)
  | mappingNotThroughPointer
  /-- A reason in the reporter's own words. -/
  | stated (text : String)
  deriving DecidableEq, Repr, Inhabited

namespace Obstacle

def message : Obstacle → String
  | functionNotIdentifier => "function name is not a C identifier"
  | voidChecked value => "void function cannot be checked against " ++ value
  | paramNotIdentifier => "name is not a C identifier"
  | inconsistentArity => "double pointer not marked as pointer"
  | statusLocalCollision => "name collides with the status local"
  | localDeclaredTwice name => "local `" ++ name ++ "` is declared twice"
  | doublePointer => "double pointers need an explicit strategy"
  | notSinglePointer => "struct marshal-in expects a single pointer"
  | notAnAggregate type category =>
    "type `" ++ type ++ "` is a " ++ category.title ++ ", not a struct or union"
  | unknownLayout type => "type `" ++ type ++ "` has no known layout"
  | mappingNotThroughPointer => "mapped memory must be returned through a pointer"
  | stated text => text

end Obstacle

/-- An obstacle and where it was met. -/
structure Unsupported where
  function : String
  /-- The declared name of the parameter at fault; empty where it is the signature. -/
  param : String
  obstacle : Obstacle
  deriving DecidableEq, Repr, Inhabited

namespace Unsupported

def subject (u : Unsupported) : String :=
  if u.param = "" then "signature" else "parameter `" ++ u.param ++ "`"

def message (u : Unsupported) : String :=
  u.function ++ ": unsupported " ++ u.subject ++ ": " ++ u.obstacle.message

end Unsupported

end HostCall
