import HostCall.Strategy

/-!
The wrapper of one function. Its body declares every parameter in order, calls the native
function, publishes results in the same order and hands the result to the guest. What comes of
one function depends on the catalog, the settings and the function alone, and says nothing of what
else the run has done.
-/
namespace HostCall

namespace Param

def fault? (p : Param) : Option Obstacle :=
  if !isIdentifier p.name then some .paramNotIdentifier
  else if !p.hasConsistentArity then some .inconsistentArity
  else none

end Param

namespace HostFunction

def unsupported (f : HostFunction) (param : String) (obstacle : Obstacle) : Unsupported :=
  { function := f.name, param, obstacle }

def paramFault? (f : HostFunction) (p : Param) : Option Unsupported :=
  p.fault?.map (f.unsupported p.name)

/-- The first thing wrong with the function as it is described. -/
def signatureFault? (f : HostFunction) (settings : Settings) : Option Unsupported :=
  if !isIdentifier f.name then some (f.unsupported "" .functionNotIdentifier)
  else if f.returnType.isNone && f.callStatus == .checked then
    some (f.unsupported "" (.voidChecked settings.successValue))
  else f.params.findSome? f.paramFault?

/-- The first local that cannot be declared beside the status local and those already `seen`. -/
def localFault? (f : HostFunction) (settings : Settings) :
    List String → List (Param × Strategy) → Option Unsupported
  | _, [] => none
  | seen, (p, s) :: rest =>
    let name := s.localName settings p
    if f.returnType.isSome && name == settings.statusLocal then
      some (f.unsupported p.name .statusLocalCollision)
    else if seen.contains name then some (f.unsupported p.name (.localDeclaredTwice name))
    else f.localFault? settings (name :: seen) rest

/-- Declares parameters in order up to the first that cannot be declared. -/
def declareAll (f : HostFunction) (catalog : Catalog) (settings : Settings) :
    List (Param × Strategy) → List Declaration × Option Unsupported
  | [] => ([], none)
  | (p, s) :: rest =>
    match s.declare catalog settings f.name p with
    | .error obstacle => ([], some (f.unsupported p.name obstacle))
    | .ok d =>
      let (others, fault) := f.declareAll catalog settings rest
      (d :: others, fault)

def nativeCall (f : HostFunction) (settings : Settings) (params : List Param) : String :=
  let arguments := ", ".intercalate (params.map (·.hostValue))
  let call := settings.dispatchPrefix ++ f.name ++ "(" ++ arguments ++ ");"
  match f.returnType with
  | some type => type ++ " " ++ settings.statusLocal ++ " = " ++ call
  | none => call

def wrapperText (f : HostFunction) (settings : Settings) (strategies : List Strategy)
    (declarations : List Declaration) : String :=
  let params := declarations.map (·.param)
  let published := List.zipWith (fun p s => s.publish settings f.callStatus p) params strategies
  "// " ++ f.name ++ "\n" ++
  "void " ++ settings.wrapperPrefix ++ f.name ++ "(CPU* cpu) \x7b\n" ++
  String.join (declarations.map (·.text)) ++
  bodyLine 1 (f.nativeCall settings params) ++
  String.join published ++
  (if f.returnType.isSome then bodyLine 1 (settings.returnStatement settings.statusLocal) else "") ++
  "\x7d\n"

end HostFunction

structure Attempt where
  /-- The declarations made before the outcome was known, in order. -/
  declarations : List Declaration
  result : Except Unsupported String

namespace Attempt

def function (a : Attempt) (f : HostFunction) : HostFunction :=
  { f with
    params := a.declarations.map (·.param) ++ f.params.drop a.declarations.length }

end Attempt

/-- Generates the wrapper of a function. All strategies are chosen before any parameter is renamed. -/
def HostFunction.attempt (f : HostFunction) (catalog : Catalog) (settings : Settings) : Attempt :=
  let strategies := f.params.map (catalog.strategy f.name)
  let chosen := f.params.zip strategies
  match f.signatureFault? settings <|> f.localFault? settings [] chosen with
  | some fault => { declarations := [], result := .error fault }
  | none =>
    match f.declareAll catalog settings chosen with
    | (declarations, some fault) => { declarations, result := .error fault }
    | (declarations, none) =>
      { declarations, result := .ok (f.wrapperText settings strategies declarations) }

end HostCall
