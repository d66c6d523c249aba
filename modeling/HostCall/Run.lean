import HostCall.ConfigFile
import HostCall.DescriptorFile
import HostCall.Error
import HostCall.Files.Access
import HostCall.Pass

/-!
Runs: from a configuration file to the generated files, or to a plan. A run reads all its input and
makes all its output before it writes anything.
-/
namespace HostCall

/-- A computation that may fail and that reports events, also those before a failure. -/
abbrev Run (m : Type → Type) := ExceptT RunError (StateT (List Event) m)

structure Report where
  outDirectory : String
  /-- How many functions have a wrapper. -/
  emitted : Nat
  skipped : List Unsupported
  /-- How many types need a marshal-in routine. -/
  marshalInTypes : Nat
  deriving DecidableEq, Repr

def sourceFile : String := "vk_thunks.cpp"

def marshalInFile : String := "marshal_in_types.txt"

namespace Run

variable {m : Type → Type} [Monad m]

def report (e : Event) : Run m Unit := modify (· ++ [e])

def reportAll (es : List Event) : Run m Unit := modify (· ++ es)

/-- Goes on with a result, or fails with an error made from its own. -/
def orFail {α ε : Type} (fail : ε → RunError) (result : Except ε α) : Run m α :=
  match result with
  | .ok value => pure value
  | .error e => throw (fail e)

variable [FileAccess m]

def access {α : Type} (action : m α) : Run m α := ExceptT.lift (StateT.lift action)

def loadConfig (path : String) : Run m Config := do
  let text ← orFail (.read path) (← access (FileAccess.read path))
  orFail (.config path) (Config.ofToml text)

def loadDescriptors (path : String) : Run m Descriptors := do
  let text ← orFail (.read path) (← access (FileAccess.read path))
  orFail (.descriptors path) (Descriptors.ofJson text)

/-- The strategy for every parameter, in the order of the descriptor file. -/
def plan (configPath : String) : Run m (List PlanEntry) := do
  let config ← loadConfig configPath
  let d ← loadDescriptors (Path.join (Path.directoryOf configPath) config.paths.descriptors)
  return (Catalog.ofConfig d.types config.marshalling).plan d.functions

def writeFile (path text : String) : Run m Unit := do
  orFail (.write path) (← access (FileAccess.write path text))

def writeOutputs (directory : String) (source marshalInList : String) : Run m Unit := do
  orFail (.write directory) (← access (FileAccess.createDirectories directory))
  writeFile (Path.join directory sourceFile) source
  writeFile (Path.join directory marshalInFile) marshalInList

/-- What is wrong with the source file after it was written; it always has its header. -/
def sourceFault? (path : String) : Except FileError Nat → Option OutputFault
  | .ok 0 => some (.empty path)
  | .ok _ => none
  | .error _ => some (.missing path)

/-- What is wrong with the list after it was written; it may be empty. -/
def listFault? (path : String) : Except FileError Nat → Option OutputFault
  | .ok _ => none
  | .error _ => some (.missing path)

def verifyOutputs (directory : String) : Run m Unit := do
  let source := Path.join directory sourceFile
  let list := Path.join directory marshalInFile
  let first := sourceFault? source (← access (FileAccess.size source))
  let second := listFault? list (← access (FileAccess.size list))
  match first.toList ++ second.toList with
  | [] => return
  | faults => throw (.verify faults)

def generate (config : Config) (base : String) : Run m Report := do
  let descriptorPath := Path.join base config.paths.descriptors
  let directory := Path.join base config.paths.out
  report (.loading descriptorPath)
  let d ← loadDescriptors descriptorPath
  report (.loaded d.types.length d.functions.length)
  let g : Generator :=
    { catalog := .ofConfig d.types config.marshalling, settings := config.settings }
  report .generating
  let generation := g.generate config.marshalling.onUnsupported d.functions
  reportAll generation.events
  let thunks ← orFail .unsupported generation.result
  writeOutputs directory thunks.code generation.generator.marshalInList
  report .verifying
  verifyOutputs directory
  let marshalInTypes := generation.generator.flagged.size
  report (.finished thunks.emitted.length thunks.skipped.length marshalInTypes)
  return { outDirectory := directory, emitted := thunks.emitted.length, skipped := thunks.skipped
           marshalInTypes }

/-- Generates the files of a configuration file, whose paths are relative to its directory. -/
def generateFrom (configPath : String) : Run m Report := do
  generate (← loadConfig configPath) (Path.directoryOf configPath)

end Run

end HostCall
