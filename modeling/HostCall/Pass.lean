import HostCall.Generator

/-!
A generation pass: the wrappers of all functions of a library, in the order of their names. A
function that cannot be wrapped is left out or ends the pass, as the policy says.
-/
namespace HostCall

structure Thunks where
  code : String
  /-- The names of the wrapped functions, in order. -/
  emitted : List String
  /-- Why the others were left out, in order. -/
  skipped : List Unsupported
  deriving DecidableEq, Repr, Inhabited

def fileHeader : String := "// Generated by vkthunk-codegen. Do not edit.\n\n"

inductive Handled where
  | wrapped (function text : String)
  | leftOut (fault : Unsupported)
  deriving DecidableEq, Repr

namespace Handled

def code : Handled → String
  | wrapped _ text => text ++ "\n"
  | leftOut _ => ""

def name? : Handled → Option String
  | wrapped function _ => some function
  | leftOut _ => none

def fault? : Handled → Option Unsupported
  | wrapped .. => none
  | leftOut fault => some fault

end Handled

def Thunks.ofHandled (handled : List Handled) : Thunks :=
  { code := fileHeader ++ String.join (handled.map (·.code))
    emitted := handled.filterMap (·.name?)
    skipped := handled.filterMap (·.fault?) }

structure Pass where
  generator : Generator
  handled : List Handled
  /-- What ended the pass early, if anything did. -/
  stopped : Option Unsupported
  events : List Event

namespace Generator

def emitAll (policy : Policy) (g : Generator) : List HostFunction → Pass
  | [] => { generator := g, handled := [], stopped := none, events := [] }
  | f :: rest =>
    let e := g.emit f
    match e.result, policy with
    | .error fault, .abort =>
      { generator := e.generator, handled := [], stopped := some fault, events := e.events }
    | .error fault, .skip =>
      let p := emitAll policy e.generator rest
      { p with handled := .leftOut fault :: p.handled
               events := e.events ++ .skipping fault :: p.events }
    | .ok text, _ =>
      let p := emitAll policy e.generator rest
      { p with handled := .wrapped f.name text :: p.handled
               events := e.events ++ p.events }

end Generator

/-- Functions in code-point order of their names; those of one name stay in the order given. -/
def sortByName (functions : List HostFunction) : List HostFunction :=
  functions.mergeSort fun f g => decide (f.name ≤ g.name)

structure Generation where
  generator : Generator
  result : Except Unsupported Thunks
  events : List Event

def Generator.generate (g : Generator) (policy : Policy) (functions : List HostFunction) : Generation :=
  let p := g.emitAll policy (sortByName functions)
  { generator := p.generator
    result := match p.stopped with
      | some fault => .error fault
      | none => .ok (.ofHandled p.handled)
    events := p.events }

end HostCall
