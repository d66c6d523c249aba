import HostCall.Run

/-!
What a run does on a file system that is a value. Its input is what can be read at the configuration
file and at the descriptor file that it names; a plan looks at that only, and a generation goes on
with the pass over the descriptors.
-/
namespace HostCall

/-- What there is when a run has ended. -/
structure Ended (α : Type) where
  result : Except RunError α
  events : List Event
  files : FileSystem

/-- What a run is made from. -/
structure Inputs where
  config : Config
  descriptors : Descriptors

namespace Inputs

/-- The generator with which a run begins. -/
def generator (i : Inputs) : Generator :=
  { catalog := .ofConfig i.descriptors.types i.config.marshalling, settings := i.config.settings }

def plan (i : Inputs) : List PlanEntry := i.generator.catalog.plan i.descriptors.functions

def generation (i : Inputs) : Generation :=
  i.generator.generate i.config.marshalling.onUnsupported i.descriptors.functions

/-- What is reported until the pass begins, by the directory that the input's paths start from. -/
def beginning (i : Inputs) (base : String) : List Event :=
  [.loading (Path.join base i.config.paths.descriptors),
    .loaded i.descriptors.types.length i.descriptors.functions.length, .generating]

end Inputs

namespace FileSystem

def descriptors (fs : FileSystem) (path : String) : Except RunError Descriptors :=
  match fs.read path with
  | .error e => .error (.read path e)
  | .ok text => (Descriptors.ofJson text).mapError (.descriptors path)

def config (fs : FileSystem) (path : String) : Except RunError Config :=
  match fs.read path with
  | .error e => .error (.read path e)
  | .ok text => (Config.ofToml text).mapError (.config path)

/-- What can be read for a run, by the path of its configuration file. -/
def inputs (fs : FileSystem) (path : String) : Except RunError Inputs :=
  match fs.config path with
  | .error e => .error e
  | .ok config =>
    (fs.descriptors (Path.join (Path.directoryOf path) config.paths.descriptors)).map
      fun descriptors => { config, descriptors }

end FileSystem

namespace Run

variable {α β : Type} {events : List Event} {fs : FileSystem}

/-- A run on a file system, after the events that were reported before it. -/
def on (run : Run (StateM FileSystem) α) (events : List Event) (fs : FileSystem) : Ended α :=
  let ((result, events), files) := (run.run.run events).run fs
  { result, events, files }

/-- What is left of a generation when its pass is over: writing, verifying and reporting. -/
def finish (directory : String) (generation : Generation) : Run (StateM FileSystem) Report := do
  reportAll generation.events
  let thunks ← orFail .unsupported generation.result
  writeOutputs directory thunks.code generation.generator.marshalInList
  report .verifying
  verifyOutputs directory
  let marshalInTypes := generation.generator.flagged.size
  report (.finished thunks.emitted.length thunks.skipped.length marshalInTypes)
  return { outDirectory := directory, emitted := thunks.emitted.length, skipped := thunks.skipped
           marshalInTypes }

theorem on_bind (run : Run (StateM FileSystem) α) (next : α → Run (StateM FileSystem) β)
    (events : List Event) (fs : FileSystem) :
    (run >>= next).on events fs =
      match run.on events fs with
      | ⟨.ok a, events, fs⟩ => (next a).on events fs
      | ⟨.error e, events, fs⟩ => ⟨.error e, events, fs⟩ := by
  unfold on
  simp only [ExceptT.run_bind, StateT.run_bind]
  rcases StateT.run (StateT.run (ExceptT.run run) events) fs with ⟨⟨result, later⟩, files⟩
  cases result <;> rfl

theorem on_orFail {ε : Type} (fail : ε → RunError) (result : Except ε α) (events : List Event)
    (fs : FileSystem) :
    (orFail fail result : Run (StateM FileSystem) α).on events fs =
      ⟨result.mapError fail, events, fs⟩ := by
  cases result <;> rfl

theorem on_read (path : String) (events : List Event) (fs : FileSystem) :
    (access (FileAccess.read path) : Run (StateM FileSystem) _).on events fs =
      ⟨.ok (fs.read path), events, fs⟩ := rfl

theorem on_report (e : Event) (events : List Event) (fs : FileSystem) :
    (report e : Run (StateM FileSystem) Unit).on events fs = ⟨.ok (), events ++ [e], fs⟩ := rfl

theorem on_loadDescriptors (path : String) (events : List Event) (fs : FileSystem) :
    (loadDescriptors path).on events fs = ⟨fs.descriptors path, events, fs⟩ := by
  unfold loadDescriptors FileSystem.descriptors
  rw [on_bind, on_read]
  simp only [on_bind, on_orFail]
  cases fs.read path with
  | error e => rfl
  | ok text => rfl

theorem on_loadConfig (path : String) (events : List Event) (fs : FileSystem) :
    (loadConfig path).on events fs = ⟨fs.config path, events, fs⟩ := by
  unfold loadConfig FileSystem.config
  rw [on_bind, on_read]
  simp only [on_bind, on_orFail]
  cases fs.read path with
  | error e => rfl
  | ok text => rfl

/-- A plan says what it does of the input, and changes nothing. -/
theorem on_plan (path : String) (events : List Event) (fs : FileSystem) :
    (plan path).on events fs = ⟨(fs.inputs path).map Inputs.plan, events, fs⟩ := by
  unfold plan FileSystem.inputs
  rw [on_bind, on_loadConfig]
  cases fs.config path with
  | error e => rfl
  | ok config =>
    simp only [on_bind, on_loadDescriptors]
    cases fs.descriptors (Path.join (Path.directoryOf path) config.paths.descriptors) with
    | error e => rfl
    | ok descriptors => rfl

theorem generate_eq (config : Config) (base : String) :
    (generate config base : Run (StateM FileSystem) Report) = (do
      let path := Path.join base config.paths.descriptors
      report (.loading path)
      let descriptors ← loadDescriptors path
      report (.loaded descriptors.types.length descriptors.functions.length)
      report .generating
      finish (Path.join base config.paths.out) (Inputs.generation { config, descriptors })) := rfl

/-- A generation reads its descriptors and goes on with the pass over them. -/
theorem on_generate (config : Config) (base : String) (events : List Event) (fs : FileSystem) :
    (generate config base).on events fs =
      match fs.descriptors (Path.join base config.paths.descriptors) with
      | .error e =>
        ⟨.error e, events ++ [.loading (Path.join base config.paths.descriptors)], fs⟩
      | .ok descriptors =>
        let i : Inputs := { config, descriptors }
        (finish (Path.join base config.paths.out) i.generation).on (events ++ i.beginning base)
          fs := by
  rw [generate_eq]
  simp only [on_bind, on_report, on_loadDescriptors]
  cases fs.descriptors (Path.join base config.paths.descriptors) with
  | error e => rfl
  | ok descriptors =>
    have reported : events ++ Inputs.beginning { config, descriptors } base =
        events ++ [.loading (Path.join base config.paths.descriptors)] ++
          [.loaded descriptors.types.length descriptors.functions.length] ++ [.generating] := by
      simp [Inputs.beginning]
    simp only [reported]

theorem on_generateFrom (path : String) (events : List Event) (fs : FileSystem) :
    match fs.inputs path with
    | .error e =>
      ((generateFrom path).on events fs).result = .error e ∧
        ((generateFrom path).on events fs).files = fs
    | .ok i =>
      (generateFrom path).on events fs =
        (finish (Path.join (Path.directoryOf path) i.config.paths.out) i.generation).on
          (events ++ i.beginning (Path.directoryOf path)) fs := by
  have steps : (generateFrom path : Run (StateM FileSystem) Report) =
      loadConfig path >>= fun config => generate config (Path.directoryOf path) := rfl
  rw [steps, on_bind, on_loadConfig]
  unfold FileSystem.inputs
  cases fs.config path with
  | error e => exact ⟨rfl, rfl⟩
  | ok config =>
    simp only [on_generate]
    cases fs.descriptors (Path.join (Path.directoryOf path) config.paths.descriptors) with
    | error e => exact ⟨rfl, rfl⟩
    | ok descriptors => rfl

end Run

end HostCall
