import HostCall.Wrapper
import HostCall.Event

/-!
A generator: a catalog, settings, and what wrappers generated so far ask for. Types whose marshal-in
routine is requested while a function is under way are staged; they are flagged only when its
wrapper is complete and dropped when it fails. Every operation returns the generator after it and
the events that it reports.
-/
namespace HostCall

structure Generator where
  catalog : Catalog
  settings : Settings := {}
  /-- Types requested by the function under way. -/
  staged : NameSet := ∅
  /-- Types whose marshal-in routine is needed. -/
  flagged : NameSet := ∅
  /-- Whether it has been reported that null is passed for a type. -/
  warned : Bool := false

namespace Generator

/-- Flags a type, if it is registered; also says whether it is. -/
def mark (g : Generator) (type : String) : Generator × Bool :=
  if g.catalog.isRegistered type then ({ g with flagged := g.flagged.insert type }, true)
  else (g, false)

def stage (g : Generator) (type : String) : Generator :=
  { g with staged := g.staged.insert type }

/-- Flags the staged types that are registered and reports the others. -/
def commit (g : Generator) : Generator × List Event :=
  let (known, unknown) := g.staged.toList.partition g.catalog.isRegistered
  ({ g with staged := ∅, flagged := g.flagged.insertAll known }, unknown.map .unregistered)

def discard (g : Generator) : Generator := { g with staged := ∅ }

/-- The list of flagged types for the generator of marshal-in routines, a line for each. -/
def marshalInList (g : Generator) : String :=
  let content := "\n".intercalate g.flagged.toList
  if content = "" then "" else content ++ "\n"

/-- Takes note of what a declaration relies on. Passing null is reported the first time only. -/
def record (g : Generator) (function : String) (d : Declaration) : Generator × List Event :=
  match d.demand with
  | .nothing => (g, [])
  | .marshalIn type => (g.stage type, [])
  | .nullFor type =>
    if g.warned then (g, [])
    else ({ g with warned := true }, [.nullPassed type function d.param.name])

def recordAll (g : Generator) (function : String) : List Declaration → Generator × List Event
  | [] => (g, [])
  | d :: rest =>
    let (g, first) := g.record function d
    let (g, others) := g.recordAll function rest
    (g, first ++ others)

/-- Declares one parameter outside any wrapper. -/
structure Declared where
  generator : Generator
  result : Except Unsupported Declaration
  events : List Event := []

def declare (g : Generator) (s : Strategy) (function : Signature) (p : Param) : Declared :=
  match s.declare g.catalog g.settings function.name p with
  | .error obstacle =>
    { generator := g, result := .error { function := function.name, param := p.name, obstacle } }
  | .ok d =>
    let (generator, events) := g.record function.name d
    { generator, result := .ok d, events }

structure Emission where
  generator : Generator
  /-- The function with its parameters as the declarations left them. -/
  function : HostFunction
  result : Except Unsupported String
  events : List Event

/-- Generates the wrapper of a function and keeps its requests if it is complete. -/
def emit (g : Generator) (f : HostFunction) : Emission :=
  let attempt := f.attempt g.catalog g.settings
  let (g, reports) := g.recordAll f.name attempt.declarations
  match attempt.result with
  | .error fault =>
    { generator := g.discard, function := attempt.function f, result := .error fault, events := reports }
  | .ok text =>
    let (g, unregistered) := g.commit
    { generator := g, function := attempt.function f, result := .ok text
      events := reports ++ .emitted f.name f.params.length :: unregistered }

end Generator

end HostCall
