import HostCall.Proofs.Delivery
import HostCall.Proofs.DescriptorRoundTrip
import HostCall.Proofs.MarshalIn

/-!
What a generation leaves behind, by how it ends. One that fails before it writes leaves everything
as it was. One that fails while it writes has made directories on the way to its output directory
at most, and written the source file before the list. One that succeeds has delivered both files,
has reported what is in them, and can be repeated without a change.
-/
namespace HostCall

theorem FileSystem.descriptors_error {fs : FileSystem} {path : String} {e : RunError}
    (h : fs.descriptors path = .error e) : e.IsBeforeWriting := by
  unfold descriptors at h
  split at h
  · cases h
    trivial
  · rename_i text known
    cases parsed : Descriptors.ofJson text with
    | error cause =>
      rw [parsed] at h
      cases h
      trivial
    | ok descriptors =>
      rw [parsed] at h
      cases h

/-- Descriptors that are not in an output file are read as before. -/
theorem FileSystem.Delivers.descriptors {before after : FileSystem} {directory path : String}
    {code list : String} {d : Descriptors} (h : before.Delivers after directory code list)
    (plain : before.IsPlain) (notSource : before.place path ≠ before.sourcePlace directory)
    (notList : before.place path ≠ before.listPlace directory)
    (loaded : before.descriptors path = .ok d) : after.descriptors path = .ok d := by
  unfold FileSystem.descriptors at loaded ⊢
  cases known : before.read path with
  | error e =>
    rw [known] at loaded
    cases loaded
  | ok text =>
    rw [known] at loaded
    rw [h.read plain notSource notList known]
    exact loaded

namespace Generator

/-- A pass that succeeds has handled every function. -/
theorem generate_eq_ok {g : Generator} {policy : Policy} {functions : List HostFunction}
    {thunks : Thunks} (h : (g.generate policy functions).result = .ok thunks) :
    thunks = .ofHandled ((sortByName functions).map g.handle) := by
  rw [generate_result] at h
  cases stopped : (g.emitAll policy (sortByName functions)).stopped with
  | some fault =>
    rw [stopped] at h
    cases h
  | none =>
    rw [stopped] at h
    cases h
    rw [(reached_of_not_stopped stopped).1]

theorem generate_skip_ok (g : Generator) (functions : List HostFunction) :
    ∃ thunks, (g.generate .skip functions).result = .ok thunks := by
  rw [generate_result, emitAll_stopped]
  exact ⟨_, rfl⟩

theorem count_ofHandled (g : Generator) (functions : List HostFunction) :
    (Thunks.ofHandled (functions.map g.handle)).emitted.length +
      (Thunks.ofHandled (functions.map g.handle)).skipped.length = functions.length := by
  have parts := (names_partition g functions).length_eq
  rw [emitted_ofHandled, skipped_ofHandled]
  simpa only [List.length_append, List.length_map] using parts

end Generator

theorem Inputs.code_ne_empty {i : Inputs} {thunks : Thunks} (h : i.generation.result = .ok thunks) :
    thunks.code ≠ "" := by
  have header : fileHeader ≠ "" := by decide
  rw [Generator.generate_eq_ok h]
  simp [Thunks.ofHandled, header]

/-- Every function of the descriptors is counted as wrapped or as left out. -/
theorem Inputs.report_counts {i : Inputs} {thunks : Thunks} (h : i.generation.result = .ok thunks)
    (directory : String) :
    (i.generation.report directory thunks).emitted +
      (i.generation.report directory thunks).skipped.length = i.descriptors.functions.length := by
  have sorted := (sortByName_sorted i.descriptors.functions).perm.length_eq
  have counted := Generator.count_ofHandled i.generator (sortByName i.descriptors.functions)
  rw [← Generator.generate_eq_ok h] at counted
  exact counted.trans sorted

theorem NameSet.nodup_toList (s : NameSet) : s.toList.Nodup :=
  s.ascending.imp String.ne_of_lt

namespace Run

variable {events : List Event} {fs : FileSystem} {generation : Generation} {directory : String}

theorem writeOutputs_error {code list : String} {e : RunError}
    (h : ((writeOutputs directory code list).on events fs).result = .error e) :
    ¬ e.IsBeforeWriting := by
  rw [on_writeOutputs] at h
  split at h
  · cases h
    exact id
  · split at h
    · cases h
      exact id
    · split at h
      · cases h
        exact id
      · cases h

theorem verifyOutputs_error {e : RunError}
    (h : ((verifyOutputs directory).on events fs).result = .error e) : ¬ e.IsBeforeWriting := by
  unfold verifyOutputs at h
  simp only [on_bind, on_access] at h
  split at h
  · cases h
  · cases h
    exact id

/-- However the files are, nothing becomes of them before writing begins. -/
theorem finish_untouched {e : RunError}
    (h : ((finish directory generation).on events fs).result = .error e)
    (early : e.IsBeforeWriting) : ((finish directory generation).on events fs).files = fs := by
  rw [on_finish] at h ⊢
  cases outcome : generation.result with
  | error fault => rfl
  | ok thunks =>
    rw [outcome] at h
    simp only at h
    split at h
    · rename_i written
      cases h
      exact absurd early (writeOutputs_error (congrArg Ended.result written))
    · split at h
      · rename_i verified
        cases h
        exact absurd early (verifyOutputs_error (congrArg Ended.result verified))
      · cases h

/-- The ways in which writing, verifying and reporting end. -/
theorem finish_cases (plain : fs.IsPlain) (directory : String) {thunks : Thunks}
    (passed : generation.result = .ok thunks) (filled : thunks.code ≠ "") (events : List Event) :
    (∃ path cause later after,
      (finish directory generation).on events fs = ⟨.error (.write path cause), later, after⟩ ∧
        fs.LeavesPartly after directory thunks.code) ∨
    ∃ later after,
      (finish directory generation).on events fs =
        ⟨.ok (generation.report directory thunks), later, after⟩ ∧
      fs.Delivers after directory thunks.code generation.generator.marshalInList := by
  rw [on_finish, passed]
  rcases writeOutputs_cases plain directory thunks.code generation.generator.marshalInList
    (events ++ generation.events) with ⟨path, cause, after, failed, partly⟩ | ⟨after, wrote, delivers⟩
  · simp only [failed]
    exact .inl ⟨path, cause, _, after, rfl, partly⟩
  · have verified := on_verifyOutputs (delivers.isPlain plain) delivers.holds filled
    simp only [wrote, verified]
    exact .inr ⟨_, after, rfl, delivers⟩

/-- Over earlier outputs a pass that has succeeded is always brought to its end. -/
theorem finish_over (plain : fs.IsPlain) (there : fs.HasOutputs directory) {thunks : Thunks}
    (passed : generation.result = .ok thunks) (filled : thunks.code ≠ "") (events : List Event) :
    ∃ later after,
      (finish directory generation).on events fs =
        ⟨.ok (generation.report directory thunks), later, after⟩ ∧
      fs.Delivers after directory thunks.code generation.generator.marshalInList ∧
      ∀ l, l ≠ fs.sourcePlace directory → l ≠ fs.listPlace directory →
        after.entry? l = fs.entry? l := by
  obtain ⟨after, wrote, delivers, elsewhere⟩ := writeOutputs_over plain there thunks.code
    generation.generator.marshalInList (events ++ generation.events)
  have verified := on_verifyOutputs (delivers.isPlain plain) delivers.holds filled
  rw [on_finish, passed]
  simp only [wrote, verified]
  exact ⟨_, after, rfl, delivers, elsewhere⟩

end Run

/-- How a generation has ended that began with what was read, if anything was, and some files. -/
structure Ended.IsCareful (ended : Ended Report) (fs : FileSystem) (base : String)
    (inputs : Except RunError Inputs) : Prop where
  untouched : ∀ e, ended.result = .error e → e.IsBeforeWriting → ended.files = fs
  partly : fs.IsPlain → ∀ path cause, ended.result = .error (.write path cause) →
    ∃ i thunks, inputs = .ok i ∧ i.generation.result = .ok thunks ∧
      fs.LeavesPartly ended.files (Path.join base i.config.paths.out) thunks.code

theorem Run.finish_careful (fs : FileSystem) (i : Inputs) (base : String) (events : List Event) :
    ((finish (Path.join base i.config.paths.out) i.generation).on events fs).IsCareful fs base
      (.ok i) where
  untouched e failed early := finish_untouched failed early
  partly plain path cause failed := by
    cases outcome : i.generation.result with
    | error fault =>
      rw [on_finish, outcome] at failed
      cases failed
    | ok thunks =>
      rcases finish_cases plain (Path.join base i.config.paths.out) outcome
        (Inputs.code_ne_empty outcome) events with ⟨_, _, _, _, ended, left⟩ | ⟨_, _, ended, _⟩
      · rw [ended]
        exact ⟨i, thunks, rfl, outcome, left⟩
      · rw [ended] at failed
        cases failed

theorem Ended.IsCareful.ofError {ended : Ended Report} {fs : FileSystem} {base : String} {e : RunError}
    (failed : ended.result = .error e) (early : e.IsBeforeWriting) (same : ended.files = fs) :
    ended.IsCareful fs base (.error e) where
  untouched _ _ _ := same
  partly _ path cause late := by
    rw [failed] at late
    cases late
    cases early

theorem FileSystem.inputs_error {fs : FileSystem} {path : String} {e : RunError}
    (h : fs.inputs path = .error e) : e.IsBeforeWriting := by
  unfold inputs config at h
  split at h
  · rename_i failed
    cases h
    split at failed
    · cases failed
      trivial
    · rename_i text known
      cases parsed : Config.ofToml text with
      | error cause =>
        rw [parsed] at failed
        cases failed
        trivial
      | ok config =>
        rw [parsed] at failed
        cases failed
  · rename_i config known
    cases parsed : fs.descriptors (Path.join (Path.directoryOf path) config.paths.descriptors) with
    | error e' =>
      rw [parsed] at h
      cases h
      exact descriptors_error parsed
    | ok descriptors =>
      rw [parsed] at h
      cases h

/-- What is read for a generation whose configuration is known. -/
def FileSystem.inputsOf (fs : FileSystem) (config : Config) (base : String) :
    Except RunError Inputs :=
  (fs.descriptors (Path.join base config.paths.descriptors)).map
    fun descriptors => { config, descriptors }

namespace Run

theorem generate_careful (fs : FileSystem) (config : Config) (base : String) (events : List Event) :
    ((generate config base).on events fs).IsCareful fs base (fs.inputsOf config base) := by
  rw [on_generate]
  unfold FileSystem.inputsOf
  cases loaded : fs.descriptors (Path.join base config.paths.descriptors) with
  | error e => exact .ofError rfl (FileSystem.descriptors_error loaded) rfl
  | ok descriptors => exact finish_careful fs { config, descriptors } base _

theorem generateFrom_careful (fs : FileSystem) (path : String) (events : List Event) :
    ((generateFrom path).on events fs).IsCareful fs (Path.directoryOf path) (fs.inputs path) := by
  have ended := on_generateFrom path events fs
  cases loaded : fs.inputs path with
  | error e =>
    rw [loaded] at ended
    exact .ofError ended.1 (FileSystem.inputs_error loaded) ended.2
  | ok i =>
    rw [loaded] at ended
    rw [ended]
    exact finish_careful fs i _ _

/--
Nothing is written unless the whole pass has succeeded; a failure to write leaves at most new
directories and the files that come before the one that could not be written.
-/
theorem written_after_success_only (fs : FileSystem) (events : List Event) :
    (∀ config base, ((generate config base).on events fs).IsCareful fs base
      (fs.inputsOf config base)) ∧
    (∀ path, ((generateFrom path).on events fs).IsCareful fs (Path.directoryOf path)
      (fs.inputs path)) ∧
    ∀ path, ((plan path).on events fs).files = fs := by
  refine ⟨fun config base => generate_careful fs config base events,
    fun path => generateFrom_careful fs path events, fun path => ?_⟩
  rw [on_plan]

end Run

/-- A library with a directory where its source file should be. -/
def obstructed : FileSystem :=
  { entries := [(["vk.json"], .file "\x7b\x7d".toUTF8), (["vk_thunks.cpp"], .directory)] }

/-- The output directory is the working directory, by a way through the place of the list. -/
def throughTheList : Config :=
  { paths := { descriptors := "vk.json", out := "marshal_in_types.txt/.." } }

theorem directory_of_isDirectory {entry : Option Entry} (h : entry.any Entry.isDirectory = true) :
    entry = some .directory := by
  cases entry with
  | none => cases h
  | some entry =>
    cases entry with
    | directory => rfl
    | file | link | sink => cases h

/-- The source file cannot be written, and there is something new where the list should be. -/
theorem obstructed_leavesDirectory :
    let out := "marshal_in_types.txt/.."
    let ended := (Run.generate throughTheList "").on [] obstructed
    obstructed.IsPlain ∧
      ended.result = .error (.write "marshal_in_types.txt/../vk_thunks.cpp" .isADirectory) ∧
      ended.files.entry? (obstructed.listPlace out) ≠ obstructed.entry? (obstructed.listPlace out) ∧
      ended.files.entry? (obstructed.sourcePlace out) = some .directory := by
  intro out ended
  have facts : ended.result = .error (.write "marshal_in_types.txt/../vk_thunks.cpp" .isADirectory) ∧
      (ended.files.entry? (obstructed.listPlace out)).any Entry.isDirectory = true ∧
      (obstructed.entry? (obstructed.listPlace out)).isNone = true ∧
      (ended.files.entry? (obstructed.sourcePlace out)).any Entry.isDirectory = true := by
    decide +kernel
  obtain ⟨failed, made, absent, kept⟩ := facts
  refine ⟨FileSystem.isPlain_of_entries (by simp [obstructed]), failed, ?_,
    directory_of_isDirectory kept⟩
  rw [directory_of_isDirectory made, Option.isNone_iff_eq_none.1 absent]
  simp

namespace Run

variable {events : List Event} {fs : FileSystem}

theorem on_generate_of_unread {config : Config} {base : String} {e : RunError}
    (h : fs.descriptors (Path.join base config.paths.descriptors) = .error e) :
    (generate config base).on events fs =
      ⟨.error e, events ++ [.loading (Path.join base config.paths.descriptors)], fs⟩ := by
  rw [on_generate, h]

theorem on_generate_of_read {config : Config} {base : String} {descriptors : Descriptors}
    (h : fs.descriptors (Path.join base config.paths.descriptors) = .ok descriptors) :
    (generate config base).on events fs =
      (finish (Path.join base config.paths.out) (Inputs.generation { config, descriptors })).on
        (events ++ Inputs.beginning { config, descriptors } base) fs := by
  rw [on_generate, h]

/-- Over earlier outputs a generation succeeds if it has read its descriptors and made its code. -/
theorem generate_over {config : Config} {base : String} {descriptors : Descriptors}
    {thunks : Thunks} (plain : fs.IsPlain)
    (read : fs.descriptors (Path.join base config.paths.descriptors) = .ok descriptors)
    (passed : (Inputs.generation { config, descriptors }).result = .ok thunks)
    (there : fs.HasOutputs (Path.join base config.paths.out)) (events : List Event) :
    ∃ report, ((generate config base).on events fs).result = .ok report := by
  obtain ⟨_, _, succeeded, _⟩ := finish_over plain there passed (Inputs.code_ne_empty passed)
    (events ++ Inputs.beginning { config, descriptors } base)
  rw [on_generate_of_read read, succeeded]
  exact ⟨_, rfl⟩

/--
A generation that succeeds has put both files in place, reports what is in them, and has no effect
when it is repeated, unless it has written over its own descriptors. Verifying never fails.
-/
theorem generate_delivers (fs : FileSystem) (plain : fs.IsPlain) (config : Config) (base : String)
    (events : List Event) :
    let descriptorPath := Path.join base config.paths.descriptors
    let directory := Path.join base config.paths.out
    let ended := (generate config base).on events fs
    (∀ report, ended.result = .ok report → ∃ descriptors thunks,
      let generation := Inputs.generation { config, descriptors }
      fs.descriptors descriptorPath = .ok descriptors ∧ generation.result = .ok thunks ∧
      fs.Delivers ended.files directory thunks.code generation.generator.marshalInList ∧
      report = generation.report directory thunks ∧
      report.emitted + report.skipped.length = descriptors.functions.length ∧
      generation.generator.flagged.toList.Nodup ∧
      report.marshalInTypes = generation.generator.flagged.toList.length ∧
      (fs.place descriptorPath ≠ fs.sourcePlace directory →
        fs.place descriptorPath ≠ fs.listPlace directory →
        ∀ later, ((generate config base).on later ended.files).result = .ok report ∧
          ended.files.Alike ((generate config base).on later ended.files).files)) ∧
    ∀ faults, ended.result ≠ .error (.verify faults) := by
  intro descriptorPath directory ended
  cases loaded : fs.descriptors descriptorPath with
  | error e =>
    have failed : ended.result = .error e := congrArg Ended.result (on_generate_of_unread loaded)
    rw [failed]
    refine ⟨nofun, fun faults same => ?_⟩
    cases same
    exact FileSystem.descriptors_error loaded
  | ok descriptors =>
    let i : Inputs := { config, descriptors }
    have ended_eq : ended = (finish directory i.generation).on (events ++ i.beginning base) fs :=
      on_generate_of_read loaded
    cases passed : i.generation.result with
    | error fault =>
      rw [ended_eq, on_finish, passed]
      exact ⟨nofun, nofun⟩
    | ok thunks =>
      have filled := Inputs.code_ne_empty passed
      rcases finish_cases plain directory passed filled (events ++ i.beginning base) with
        ⟨path, cause, later, after, failed, _⟩ | ⟨later, after, succeeded, delivers⟩
      · rw [ended_eq, failed]
        exact ⟨nofun, nofun⟩
      · rw [ended_eq, succeeded]
        refine ⟨fun report same => ?_, nofun⟩
        cases same
        refine ⟨descriptors, thunks, rfl, passed, delivers, rfl,
          Inputs.report_counts passed directory, NameSet.nodup_toList _, rfl, ?_⟩
        intro notSource notList later
        have kept := delivers.descriptors plain notSource notList loaded
        have again : (generate config base).on later after =
            (finish directory i.generation).on (later ++ i.beginning base) after :=
          on_generate_of_read kept
        obtain ⟨_, after', succeeded', delivers', elsewhere⟩ := finish_over
          (delivers.isPlain plain) delivers.holds.hasOutputs passed filled (later ++ i.beginning base)
        rw [again, succeeded']
        exact ⟨rfl, delivers'.alike delivers.holds elsewhere⟩

end Run

/-- One function that copies a structure for the call, and one that cannot be wrapped. -/
def releasedInputs : Inputs :=
  { config := { paths := { descriptors := "vk.json", out := "gen" } }
    descriptors :=
      { types := [⟨"VkMapInfo", .struct⟩, ⟨"VkSubmitInfo", .struct⟩]
        functions := [copiesInfo, failsLate] } }

/-- An output of another release, which was much longer. -/
def earlierOutput : ByteArray := (String.ofList (List.replicate 100000 '/')).toUTF8

def released : FileSystem :=
  { entries := [
      (["vk.json"], .file releasedInputs.descriptors.write.toUTF8), (["gen"], .directory),
      (["gen", sourceFile], .file earlierOutput), (["gen", marshalInFile], .file earlierOutput)] }

theorem isPlain_released : released.IsPlain :=
  FileSystem.isPlain_of_entries (by simp [released])

theorem fromUTF8?_toUTF8 (text : String) : String.fromUTF8? text.toUTF8 = some text :=
  dif_pos text.isValidUTF8

/-- Descriptors are read from a file that they were written to. -/
theorem FileSystem.descriptors_of_file {fs : FileSystem} {path : String} {d : Descriptors}
    (plain : fs.IsPlain) (filled : path ≠ "") (reached : fs.Reaches path) (normal : d.IsNormal)
    (there : fs.entry? (fs.place path) = some (.file d.write.toUTF8)) :
    fs.descriptors path = .ok d := by
  have known : fs.read path = .ok d.write :=
    (FileSystem.read_eq_ok_iff plain).2 ⟨_, filled, reached, there, fromUTF8?_toUTF8 _⟩
  unfold FileSystem.descriptors
  rw [known]
  simp only [Descriptors.ofJson_written normal d.isWritten_write]
  rfl

theorem start_released {path : String} (relative : Path.isAbsolute path = false) :
    released.start path = [] := by
  rw [FileSystem.start, relative]
  rfl

theorem place_released_descriptors : released.place "vk.json" = ["vk.json"] := by
  have parts : Path.parts "vk.json" = ["vk.json"] := by decide
  rw [FileSystem.place, start_released (by decide), parts]
  simp [advance]

theorem place_released_directory : released.place "gen" = ["gen"] := by
  have parts : Path.parts "gen" = ["gen"] := by decide
  rw [FileSystem.place, start_released (by decide), parts]
  simp [advance]

theorem descriptors_released : released.descriptors "vk.json" = .ok releasedInputs.descriptors := by
  have parts : Path.parts "vk.json" = ["vk.json"] := by decide
  have normal : releasedInputs.descriptors.IsNormal := by
    simp [Descriptors.IsNormal, HostFunction.IsNormal, Param.IsNormal, releasedInputs, copiesInfo,
      failsLate]
  refine FileSystem.descriptors_of_file isPlain_released (by decide) ?_ normal ?_
  · rw [FileSystem.Reaches, start_released (by decide), parts]
    simp [FileSystem.Passes, FileSystem.entry?]
  · rw [place_released_descriptors]
    simp [released, FileSystem.entry?]

theorem hasOutputs_released : released.HasOutputs "gen" := by
  have names : Path.names "gen".toList = ["gen"] := by decide
  refine ⟨?_, ⟨earlierOutput, ?_⟩, ⟨earlierOutput, ?_⟩⟩
  · rw [FileSystem.reaches_join isFileName_sourceFile, start_released (by decide), names,
      place_released_directory]
    simp [FileSystem.Passes, FileSystem.entry?, released, List.lookup_cons]
  · rw [FileSystem.sourcePlace, place_released_directory]
    simp [FileSystem.entry?, released, List.lookup_cons, sourceFile]
  · rw [FileSystem.listPlace, place_released_directory]
    simp [FileSystem.entry?, released, List.lookup_cons, sourceFile, marshalInFile]

theorem generate_delivers_released :
    let ended := (Run.generate releasedInputs.config "").on [] released
    released.IsPlain ∧ ∃ report thunks, ended.result = .ok report ∧
      released.Delivers ended.files "gen" (Thunks.code thunks)
        releasedInputs.generation.generator.marshalInList ∧
      report.emitted + report.skipped.length = 2 ∧
      ∀ later, ((Run.generate releasedInputs.config "").on later ended.files).result = .ok report ∧
        ended.files.Alike ((Run.generate releasedInputs.config "").on later ended.files).files := by
  have toDescriptors : Path.join "" releasedInputs.config.paths.descriptors = "vk.json" := by decide
  have toDirectory : Path.join "" releasedInputs.config.paths.out = "gen" := by decide
  have read := descriptors_released
  have there := hasOutputs_released
  rw [← toDescriptors] at read
  rw [← toDirectory] at there
  obtain ⟨thunks, passed⟩ := Generator.generate_skip_ok releasedInputs.generator
    releasedInputs.descriptors.functions
  obtain ⟨report, succeeded⟩ := Run.generate_over isPlain_released read passed there []
  obtain ⟨delivered, _⟩ := Run.generate_delivers released isPlain_released releasedInputs.config "" []
  obtain ⟨descriptors, thunks, again, _, delivers, _, counted, _, _, repeats⟩ :=
    delivered report succeeded
  cases read.symm.trans again
  rw [toDirectory] at delivers repeats
  rw [toDescriptors] at repeats
  refine ⟨isPlain_released, report, thunks, succeeded, delivers, counted, repeats ?_ ?_⟩
  · simp [FileSystem.sourcePlace, place_released_descriptors, place_released_directory]
  · simp [FileSystem.listPlace, place_released_descriptors, place_released_directory]

end HostCall
