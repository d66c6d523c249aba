import HostCall.Identifier
import HostCall.Literal
import HostCall.Catalog

/-!
The ways in which a wrapper marshals one parameter. A strategy declares the host's value before
the native call and may publish results after it. What it does is a value: the text to put into
the wrapper, the parameter as the rest of the wrapper sees it, and what else is needed for it.
-/
namespace HostCall

inductive Strategy where
  /-- The guest's value is cast to the host's type. -/
  | direct
  /-- The guest's struct is copied into a host struct. -/
  | structIn
  /-- The host's pointer to a mapped range is received and registered. -/
  | mapMemory (range : MappedRange)
  deriving DecidableEq, Repr, Inhabited

/-- What a declaration relies on outside the wrapper's own text. -/
inductive Demand where
  | nothing
  /-- A routine that copies structs of this type in. -/
  | marshalIn (type : String)
  /-- The type cannot be represented, and null is passed in its place. -/
  | nullFor (type : String)
  deriving DecidableEq, Repr, Inhabited

/-- What a strategy does for one parameter before the native call. -/
structure Declaration where
  /-- The parameter as the call and what follows it see it. -/
  param : Param
  text : String
  demand : Demand := .nothing
  deriving DecidableEq, Repr, Inhabited

def bodyLine (depth : Nat) (statement : String) : String :=
  String.join (List.replicate depth "    ") ++ statement ++ "\n"

namespace Strategy

def name : Strategy → String
  | direct => "direct"
  | structIn => "struct_in"
  | mapMemory _ => "map_memory"

/-- The name that a declaration gives to the parameter, where it is another one. -/
def renamed? (settings : Settings) (p : Param) : Strategy → Option String
  | direct | structIn => none
  | mapMemory _ => if p.isDoublePointer then some settings.placeholder else none

/-- The local that a declaration makes for a parameter. -/
def localName (settings : Settings) (p : Param) (s : Strategy) : String :=
  (s.renamed? settings p).getD p.name

def declareDirect (p : Param) : Except Obstacle Declaration :=
  if p.isDoublePointer then .error .doublePointer
  else
    let type := typeSpelling p.type p.isPointer
    .ok { param := p
          text := bodyLine 1 (type ++ " " ++ p.name ++ " = (" ++ type ++ ")" ++ p.guestValue ++ ";") }

/-- Null for a type that the host cannot represent, with a diagnostic at its first use at run time. -/
def declareNull (settings : Settings) (function : String) (p : Param) : Declaration :=
  let flag := shownFlagName p.name
  let report := Literal.escape (function ++ ":" ++ p.type ++ " not implemented")
  { param := p
    text :=
      bodyLine 1 ("static bool " ++ flag ++ ";") ++
      bodyLine 1 ("if (!" ++ flag ++ " && " ++ p.guestValue ++ ") \x7b") ++
      bodyLine 2 (settings.logFunction ++ "(\"" ++ report ++ "\");") ++
      bodyLine 2 (flag ++ " = true;") ++
      bodyLine 1 "\x7d" ++
      bodyLine 1 (p.type ++ "* " ++ p.name ++ " = NULL;")
    demand := .nullFor p.type }

/-- A host struct that is filled from the guest's struct, and a pointer to it. -/
def declareCopy (settings : Settings) (p : Param) : Declaration :=
  let copy := localCopyName p.name
  { param := p
    text :=
      bodyLine 1 (marshalClassName p.type ++ " " ++ copy ++ "(" ++ settings.marshalContext ++ ", "
        ++ settings.memoryAccessor ++ ", " ++ p.guestValue ++ ");") ++
      bodyLine 1 (p.type ++ "* " ++ p.name ++ " = &" ++ copy ++ ".s;")
    demand := .marshalIn p.type }

def declareStruct (catalog : Catalog) (settings : Settings) (function : String) (p : Param) :
    Except Obstacle Declaration :=
  if !p.isSinglePointer then .error .notSinglePointer
  else if catalog.isExcluded p.type then .ok (declareNull settings function p)
  else
    match catalog.category? p.type with
    | none => .error (.unknownLayout p.type)
    | some category =>
      if category.hasLayout then .ok (declareCopy settings p)
      else .error (.notAnAggregate p.type category)

/--
A host pointer for the range. Behind a double pointer the call receives the address of that
pointer, which goes by the placeholder's name.
-/
def declareRange (settings : Settings) (p : Param) : Except Obstacle Declaration :=
  if !p.isPointer then .error .mappingNotThroughPointer
  else
    let q :=
      if p.isDoublePointer then
        { p with name := settings.placeholder, hostValue := addressOf settings.placeholder }
      else p
    .ok { param := q, text := bodyLine 1 (typeSpelling q.type q.isPointer ++ " " ++ q.name ++ " = NULL;") }

/-- Declares the host's value of a parameter. -/
def declare (catalog : Catalog) (settings : Settings) (function : String) (p : Param) :
    Strategy → Except Obstacle Declaration
  | direct => declareDirect p
  | structIn => declareStruct catalog settings function p
  | mapMemory _ => declareRange settings p

def registration (settings : Settings) (range : MappedRange) (pointer : String) : String :=
  let call := settings.mapFunction ++ "(" ++ range.handle ++ ", " ++ pointer ++ ", " ++ range.size ++ ")"
  match range.guestOut with
  | some address => settings.guestWrite ++ "(" ++ address ++ ", " ++ call ++ ");"
  | none => call ++ ";"

/-- Publishes results after the call, for the parameter as its declaration left it. -/
def publish (settings : Settings) (status : CallStatus) (p : Param) : Strategy → String
  | direct | structIn => ""
  | mapMemory range =>
    let statement := registration settings range p.name
    match status with
    | .checked =>
      bodyLine 1 ("if (" ++ settings.statusLocal ++ " == " ++ settings.successValue ++ ") \x7b") ++
      bodyLine 2 statement ++ bodyLine 1 "\x7d"
    | .succeeded => bodyLine 1 statement
    | .failed => ""

end Strategy

/--
The strategy for a parameter of a function, by the parameter's declared name: mapped ranges are
stated one by one, single pointers to aggregates and to excluded types are structs, and all else
is passed on.
-/
def Catalog.strategy (c : Catalog) (function : String) (p : Param) : Strategy :=
  match c.range? function p.name with
  | some range => .mapMemory range
  | none =>
    if p.isSinglePointer && (c.isExcluded p.type || c.hasLayout p.type) then .structIn else .direct

structure PlanEntry where
  function : String
  param : String
  strategy : Strategy
  deriving DecidableEq, Repr, Inhabited

def Catalog.planFunction (c : Catalog) (f : HostFunction) : List PlanEntry :=
  f.params.map fun p => ⟨f.name, p.name, c.strategy f.name p⟩

def Catalog.plan (c : Catalog) (functions : List HostFunction) : List PlanEntry :=
  functions.flatMap c.planFunction

end HostCall
