/-!
What is known of the host library: its types and its functions with their parameters.
-/
namespace HostCall

inductive Category where
  | struct
  | union
  | handle
  | enum
  | base
  deriving DecidableEq, Repr, Inhabited

namespace Category

/-- Only aggregates are laid out field by field. -/
def hasLayout : Category → Bool
  | struct | union => true
  | handle | enum | base => false

/-- The word for the category in descriptor files. -/
def keyword : Category → String
  | struct => "struct"
  | union => "union"
  | handle => "handle"
  | enum => "enum"
  | base => "base"

/-- The capitalised word that messages use. -/
def title : Category → String
  | struct => "Struct"
  | union => "Union"
  | handle => "Handle"
  | enum => "Enum"
  | base => "Base"

def all : List Category := [struct, union, handle, enum, base]

def ofKeyword? (word : String) : Option Category := all.find? (·.keyword == word)

end Category

structure TypeEntry where
  name : String
  category : Category
  deriving DecidableEq, Repr, Inhabited

/-- What a wrapper may assume of the native call when it publishes results. -/
inductive CallStatus where
  /-- The call returns a status that is compared with the success value. -/
  | checked
  /-- The call cannot fail. -/
  | succeeded
  /-- The call fails, so it produces nothing. -/
  | failed
  deriving DecidableEq, Repr, Inhabited

namespace CallStatus

/-- The word for the status in descriptor files. -/
def keyword : CallStatus → String
  | checked => "checked"
  | succeeded => "succeeded"
  | failed => "failed"

def all : List CallStatus := [checked, succeeded, failed]

def ofKeyword? (word : String) : Option CallStatus := all.find? (·.keyword == word)

end CallStatus

/-- A function apart from its parameters. -/
structure Signature where
  name : String
  /-- `none` for a function without a result. -/
  returnType : Option String := none
  /-- The status that was stated, if any. -/
  status : Option CallStatus := none
  deriving DecidableEq, Repr, Inhabited

/-- `void` as a return type means that there is no result. -/
def nonVoid (returnType : Option String) : Option String := returnType.filter (· != "void")

/-- The stated status, or else the one that the return type implies. -/
def Signature.callStatus (f : Signature) : CallStatus :=
  match f.status, f.returnType with
  | some status, _ => status
  | none, some "VkResult" => .checked
  | none, _ => .succeeded

structure Param where
  /-- The local that the wrapper declares for the parameter. -/
  name : String
  type : String
  isPointer : Bool := false
  isDoublePointer : Bool := false
  /-- The expression that yields the guest's value. -/
  guestValue : String
  /-- The expression that is passed to the native call. -/
  hostValue : String
  deriving DecidableEq, Repr, Inhabited

/-- A double pointer has to be marked as a pointer too. -/
def Param.hasConsistentArity (p : Param) : Bool := p.isPointer || !p.isDoublePointer

def Param.isSinglePointer (p : Param) : Bool := p.isPointer && !p.isDoublePointer

/-- A parameter is passed under its own name unless another expression is given. -/
def Param.normalize (p : Param) : Param :=
  if p.hostValue = "" then { p with hostValue := p.name } else p

structure HostFunction extends Signature where
  params : List Param := []
  deriving DecidableEq, Repr, Inhabited

def HostFunction.normalize (f : HostFunction) : HostFunction :=
  { f with params := f.params.map Param.normalize }

structure Descriptors where
  types : List TypeEntry := []
  functions : List HostFunction := []
  deriving DecidableEq, Repr, Inhabited

def Descriptors.normalize (d : Descriptors) : Descriptors :=
  { d with functions := d.functions.map HostFunction.normalize }

end HostCall
