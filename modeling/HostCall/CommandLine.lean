import HostCall.Run

/-!
The command line. `generate` writes the generated files, `plan` prints the strategy for every
parameter; both take the path of a configuration file, and `plan` may be limited to a function.
-/
namespace HostCall

inductive Command where
  | generate (config : String)
  | plan (config : String) (function : Option String)
  deriving DecidableEq, Repr

structure Options where
  config : Option String := none
  function : Option String := none
  deriving DecidableEq, Repr

namespace Options

def configName : String := "--config"

def functionName : String := "--function"

/-- Sets an option that is not set. The path of a configuration file is never empty. -/
def set? (o : Options) (allowFunction : Bool) (name value : String) : Option Options :=
  if name = configName then
    if o.config.isSome || value = "" then none else some { o with config := some value }
  else if name = functionName && allowFunction then
    if o.function.isSome then none else some { o with function := some value }
  else none

/-- Whether an argument can be the value of the option before it. -/
def isValue (argument : String) : Bool :=
  match argument.toList with
  | '-' :: _ :: _ => false
  | _ => true

/-- Splits an argument at its first equality sign. -/
def splitEquals (argument : String) : Option (String × String) :=
  let cs := argument.toList
  match cs.dropWhile (· ≠ '=') with
  | [] => none
  | _ :: value => some (String.ofList (cs.takeWhile (· ≠ '=')), String.ofList value)

/-- Reads options, whose values follow them or are joined to them by an equality sign. -/
def parse? (allowFunction : Bool) (o : Options) : List String → Option Options
  | [] => some o
  | ["--"] => some o
  | argument :: rest =>
    match splitEquals argument with
    | some (name, value) =>
      match o.set? allowFunction name value with
      | none => none
      | some o => parse? allowFunction o rest
    | none =>
      match rest with
      | [] => none
      | value :: rest =>
        if !isValue value then none
        else
          match o.set? allowFunction argument value with
          | none => none
          | some o => parse? allowFunction o rest

end Options

namespace Command

def defaultConfig : String := "vkthunk.config.toml"

def parse? : List String → Option Command
  | "generate" :: rest =>
    (Options.parse? false {} rest).map fun o => .generate (o.config.getD defaultConfig)
  | "plan" :: rest =>
    (Options.parse? true {} rest).map fun o => .plan (o.config.getD defaultConfig) o.function
  | _ => none

end Command

structure Outcome where
  code : Nat
  stdout : String := ""
  stderr : String := ""
  /-- What went wrong, for the log. -/
  error : Option RunError := none
  events : List Event := []

namespace Outcome

def usage : Outcome := { code := 2 }

def skippedLine (u : Unsupported) : String := "  skipped " ++ u.function ++ ": " ++ u.message ++ "\n"

def ofReport (r : Report) : Outcome :=
  { code := 0
    stdout := s!"{r.emitted} wrappers, {r.marshalInTypes} marshal-in types -> {r.outDirectory}\n"
    stderr := String.join (r.skipped.map skippedLine) }

def planLine (e : PlanEntry) : String :=
  e.function ++ "." ++ e.param ++ ": " ++ e.strategy.name ++ "\n"

def ofPlan (function : Option String) (entries : List PlanEntry) : Outcome :=
  let shown := entries.filter fun e => function.all (· == e.function)
  { code := 0, stdout := String.join (shown.map planLine) }

def ofResult {α : Type} (present : α → Outcome) (result : Except RunError α × List Event) : Outcome :=
  match result with
  | (.ok value, events) => { present value with events }
  | (.error e, events) => { code := 1, error := some e, events }

end Outcome

def Command.run {m : Type → Type} [Monad m] [FileAccess m] : Command → m Outcome
  | .generate config => do
    return .ofResult .ofReport (← (Run.generateFrom config).run.run [])
  | .plan config function => do
    return .ofResult (.ofPlan function) (← (Run.plan config).run.run [])

def runProgram {m : Type → Type} [Monad m] [FileAccess m] (arguments : List String) : m Outcome :=
  match Command.parse? arguments with
  | some command => command.run
  | none => return .usage

end HostCall
