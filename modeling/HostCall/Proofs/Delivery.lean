import HostCall.Proofs.Directories
import HostCall.Proofs.Execution
import HostCall.Proofs.Isolation

/-!
What a generation does to files. Nothing is touched before the whole pass has succeeded; then the
output directory is made, the source file is written, and the list after it. A generation that
succeeds has delivered both files whole, whatever was there before, and doing it again changes
nothing.
-/
namespace HostCall

/-- A failure that comes before anything is written. -/
def RunError.IsBeforeWriting : RunError → Prop
  | .read .. | .config .. | .descriptors .. | .unsupported _ => True
  | .write .. | .verify _ => False

theorem isFileName_sourceFile : Path.IsFileName sourceFile := ⟨by decide, by decide, by decide⟩

theorem isFileName_marshalInFile : Path.IsFileName marshalInFile :=
  ⟨by decide, by decide, by decide⟩

namespace FileSystem

variable {fs before after : FileSystem} {directory path code list : String}

/-- Where the source file of an output directory is. -/
def sourcePlace (fs : FileSystem) (directory : String) : Location :=
  fs.place directory ++ [sourceFile]

def listPlace (fs : FileSystem) (directory : String) : Location :=
  fs.place directory ++ [marshalInFile]

theorem sourcePlace_ne_listPlace (fs : FileSystem) (directory : String) :
    fs.sourcePlace directory ≠ fs.listPlace directory := by
  simp [sourcePlace, listPlace, sourceFile, marshalInFile]

/-- What is left of an output that could not be written whole. -/
structure LeavesPartly (before after : FileSystem) (directory code : String) : Prop where
  elsewhere : ∀ l, l ≠ before.sourcePlace directory → l ≠ before.listPlace directory →
    after.entry? l = before.entry? l ∨ Made before after directory l
  list : after.entry? (before.listPlace directory) ≠ before.entry? (before.listPlace directory) →
    after.entry? (before.sourcePlace directory) = some (.file code.toUTF8) ∨
      Made before after directory (before.listPlace directory)

/-- The source file has been written, and at most the directories on the way to it are new. -/
structure SourceWritten (before after : FileSystem) (directory code : String) : Prop where
  current : after.current = before.current
  reached : after.Reaches (Path.join directory sourceFile)
  source : after.entry? (before.sourcePlace directory) = some (.file code.toUTF8)
  replaced : before.entry? (before.sourcePlace directory) ≠ some .directory
  elsewhere : ∀ l, l ≠ before.sourcePlace directory →
    after.entry? l = before.entry? l ∨ Made before after directory l

/-- Both output files are in place. -/
structure Holds (fs : FileSystem) (directory code list : String) : Prop where
  reached : fs.Reaches (Path.join directory sourceFile)
  source : fs.entry? (fs.sourcePlace directory) = some (.file code.toUTF8)
  list : fs.entry? (fs.listPlace directory) = some (.file list.toUTF8)

/-- Both output files have been put in place, and at most the directories on the way are new. -/
structure Delivers (before after : FileSystem) (directory code list : String) : Prop where
  current : after.current = before.current
  holds : after.Holds directory code list
  replaced : before.entry? (before.sourcePlace directory) ≠ some .directory ∧
    before.entry? (before.listPlace directory) ≠ some .directory
  elsewhere : ∀ l, l ≠ before.sourcePlace directory → l ≠ before.listPlace directory →
    after.entry? l = before.entry? l ∨ Made before after directory l

theorem sourcePlace_congr (same : after.current = before.current) :
    after.sourcePlace = before.sourcePlace := by
  funext directory
  unfold sourcePlace
  rw [place_congr same]

theorem listPlace_congr (same : after.current = before.current) :
    after.listPlace = before.listPlace := by
  funext directory
  unfold listPlace
  rw [place_congr same]

theorem place_sourceFile (fs : FileSystem) (directory : String) :
    fs.place (Path.join directory sourceFile) = fs.sourcePlace directory :=
  place_join fs directory isFileName_sourceFile

theorem place_marshalInFile (fs : FileSystem) (directory : String) :
    fs.place (Path.join directory marshalInFile) = fs.listPlace directory :=
  place_join fs directory isFileName_marshalInFile

/-- Both output files are in one directory. -/
theorem reaches_marshalInFile_iff :
    fs.Reaches (Path.join directory marshalInFile) ↔ fs.Reaches (Path.join directory sourceFile) := by
  rw [reaches_join isFileName_marshalInFile, reaches_join isFileName_sourceFile]

theorem LeavesPartly.ofOnlyMakes (h : OnlyMakes before after directory) (code : String) :
    LeavesPartly before after directory code where
  elsewhere l _ _ := h.entries l
  list differs := .inr ((h.entries _).resolve_left differs)

theorem LeavesPartly.ofSourceWritten (h : SourceWritten before after directory code) :
    LeavesPartly before after directory code where
  elsewhere l notSource _ := h.elsewhere l notSource
  list _ := .inl h.source

/-- Writing the source file into a directory that has been made for it. -/
theorem OnlyMakes.sourceWritten (made : OnlyMakes before fs directory) (plain : fs.IsPlain)
    (h : fs.write (Path.join directory sourceFile) code.toUTF8 = .ok after) :
    SourceWritten before after directory code := by
  obtain ⟨reached, noDirectory, written⟩ := write_eq_ok plain h
  rw [place_sourceFile, sourcePlace_congr made.current] at noDirectory written
  subst written
  have other : ∀ l, l ≠ before.sourcePlace directory →
      entry? (fs.put (before.sourcePlace directory) (.file code.toUTF8)) l = fs.entry? l :=
    fun l => entry?_put_of_ne
  refine ⟨made.current, reached.mono rfl fun l there => ?_, entry?_put_self (by simp [sourcePlace]),
    mt made.directory noDirectory, fun l notSource => ?_⟩
  · rw [other l fun same => noDirectory (same ▸ there)]
    exact there
  · rcases made.entries l with same | ⟨absent, present, onTheWay⟩
    · exact .inl ((other l notSource).trans same)
    · exact .inr ⟨absent, (other l notSource).trans present, onTheWay⟩

theorem SourceWritten.isPlain (h : SourceWritten before after directory code)
    (plain : before.IsPlain) : after.IsPlain := by
  refine plain.ofEntries fun l => ?_
  by_cases isSource : l = before.sourcePlace directory
  · exact .inr (.inr ⟨_, isSource ▸ h.source⟩)
  · exact (h.elsewhere l isSource).imp id fun made => .inl made.present

/-- Writing the list beside the source file. -/
theorem SourceWritten.delivers (first : SourceWritten before fs directory code) (plain : fs.IsPlain)
    (h : fs.write (Path.join directory marshalInFile) list.toUTF8 = .ok after) :
    Delivers before after directory code list := by
  obtain ⟨reached, noDirectory, written⟩ := write_eq_ok plain h
  rw [place_marshalInFile, listPlace_congr first.current] at noDirectory written
  rw [reaches_marshalInFile_iff] at reached
  have apart := sourcePlace_ne_listPlace before directory
  subst written
  have other : ∀ l, l ≠ before.listPlace directory →
      entry? (fs.put (before.listPlace directory) (.file list.toUTF8)) l = fs.entry? l :=
    fun l => entry?_put_of_ne
  have current : (fs.put (before.listPlace directory) (.file list.toUTF8)).current =
    before.current := first.current
  refine ⟨current, ⟨reached.mono rfl fun l there => ?_, ?_, ?_⟩, ⟨first.replaced, ?_⟩,
    fun l notSource notList => ?_⟩
  · rw [other l fun same => noDirectory (same ▸ there)]
    exact there
  · rw [sourcePlace_congr current, other _ apart]
    exact first.source
  · rw [listPlace_congr current]
    exact entry?_put_self (by simp [listPlace])
  · rcases first.elsewhere _ apart.symm with same | made
    · exact same ▸ noDirectory
    · exact absurd made.present noDirectory
  · rcases first.elsewhere l notSource with same | ⟨absent, present, onTheWay⟩
    · exact .inl ((other l notList).trans same)
    · exact .inr ⟨absent, (other l notList).trans present, onTheWay⟩

namespace Delivers

variable (h : Delivers before after directory code list)

include h

theorem keeps_directory {l : Location} (there : before.entry? l = some .directory) :
    after.entry? l = some .directory := by
  have notSource : l ≠ before.sourcePlace directory := fun same => h.replaced.1 (same ▸ there)
  have notList : l ≠ before.listPlace directory := fun same => h.replaced.2 (same ▸ there)
  rcases h.elsewhere l notSource notList with same | made
  · exact same.trans there
  · exact made.present

theorem isPlain (plain : before.IsPlain) : after.IsPlain := by
  have source := h.holds.source
  have list := h.holds.list
  rw [sourcePlace_congr h.current] at source
  rw [listPlace_congr h.current] at list
  refine plain.ofEntries fun l => ?_
  by_cases isSource : l = before.sourcePlace directory
  · exact .inr (.inr ⟨_, isSource ▸ source⟩)
  · by_cases isList : l = before.listPlace directory
    · exact .inr (.inr ⟨_, isList ▸ list⟩)
    · exact (h.elsewhere l isSource isList).imp id fun made => .inl made.present

/-- What could be read elsewhere can still be read. -/
theorem read (plain : before.IsPlain) {text : String}
    (notSource : before.place path ≠ before.sourcePlace directory)
    (notList : before.place path ≠ before.listPlace directory)
    (known : before.read path = .ok text) : after.read path = .ok text := by
  obtain ⟨bytes, filled, reached, there, decoded⟩ := (read_eq_ok_iff plain).1 known
  refine (read_eq_ok_iff (h.isPlain plain)).2 ⟨bytes, filled, reached.mono h.current
    fun l => h.keeps_directory, ?_, decoded⟩
  rw [place_congr h.current]
  rcases h.elsewhere _ notSource notList with same | made
  · exact same.trans there
  · exact absurd (there.symm.trans made.absent) nofun

end Delivers

/-- Two file systems in which the same is at every place. -/
structure Alike (before after : FileSystem) : Prop where
  current : after.current = before.current
  entries : ∀ l, after.entry? l = before.entry? l

/-- Files of the right names are where the outputs go. -/
structure HasOutputs (fs : FileSystem) (directory : String) : Prop where
  reached : fs.Reaches (Path.join directory sourceFile)
  source : ∃ old, fs.entry? (fs.sourcePlace directory) = some (.file old)
  list : ∃ old, fs.entry? (fs.listPlace directory) = some (.file old)

theorem Holds.hasOutputs (h : fs.Holds directory code list) : fs.HasOutputs directory :=
  ⟨h.reached, ⟨_, h.source⟩, ⟨_, h.list⟩⟩

/-- Outputs that are delivered where they already are make no difference. -/
theorem Delivers.alike (h : Delivers before after directory code list)
    (there : before.Holds directory code list)
    (elsewhere : ∀ l, l ≠ before.sourcePlace directory → l ≠ before.listPlace directory →
      after.entry? l = before.entry? l) : Alike before after := by
  have source := h.holds.source
  have list := h.holds.list
  rw [sourcePlace_congr h.current, ← there.source] at source
  rw [listPlace_congr h.current, ← there.list] at list
  refine ⟨h.current, fun l => ?_⟩
  by_cases isSource : l = before.sourcePlace directory
  · exact isSource ▸ source
  · by_cases isList : l = before.listPlace directory
    · exact isList ▸ list
    · exact elsewhere l isSource isList

end FileSystem

namespace Run

variable {events : List Event} {fs : FileSystem}

theorem run_write (path text : String) (fs : FileSystem) :
    (FileAccess.write path text : StateM FileSystem _).run fs =
      match fs.write path text.toUTF8 with
      | .error e => (.error e, fs)
      | .ok after => (.ok (), after) := by
  change (match fs.write path text.toUTF8 with
    | .error e => (pure (.error e) : StateM FileSystem (Except FileError Unit))
    | .ok after => (do set after; return .ok ())).run fs = _
  cases fs.write path text.toUTF8 <;> rfl

theorem on_access {α : Type} (action : StateM FileSystem α) (events : List Event)
    (fs : FileSystem) :
    (@access (StateM FileSystem) _ α action).on events fs =
      ⟨.ok (action.run fs).1, events, (action.run fs).2⟩ := rfl

theorem on_pure {α : Type} (value : α) (events : List Event) (fs : FileSystem) :
    (pure value : Run (StateM FileSystem) α).on events fs = ⟨.ok value, events, fs⟩ := rfl

theorem on_reportAll (more events : List Event) (fs : FileSystem) :
    (reportAll more : Run (StateM FileSystem) Unit).on events fs = ⟨.ok (), events ++ more, fs⟩ := rfl

theorem on_writeFile (path text : String) (events : List Event) (fs : FileSystem) :
    (writeFile path text).on events fs =
      match fs.write path text.toUTF8 with
      | .error e => ⟨.error (.write path e), events, fs⟩
      | .ok after => ⟨.ok (), events, after⟩ := by
  unfold writeFile
  rw [on_bind, on_access, run_write]
  cases fs.write path text.toUTF8 <;> rfl

theorem on_writeOutputs (directory code list : String) (events : List Event) (fs : FileSystem) :
    (writeOutputs directory code list).on events fs =
      match fs.createDirectories directory with
      | (.error e, made) => ⟨.error (.write directory e), events, made⟩
      | (.ok (), made) =>
        match made.write (Path.join directory sourceFile) code.toUTF8 with
        | .error e => ⟨.error (.write (Path.join directory sourceFile) e), events, made⟩
        | .ok written =>
          match written.write (Path.join directory marshalInFile) list.toUTF8 with
          | .error e => ⟨.error (.write (Path.join directory marshalInFile) e), events, written⟩
          | .ok after => ⟨.ok (), events, after⟩ := by
  have made_by : (FileAccess.createDirectories directory : StateM FileSystem _).run fs =
      fs.createDirectories directory := rfl
  unfold writeOutputs
  simp only [on_bind, on_access, made_by, on_orFail, on_writeFile]
  rcases fs.createDirectories directory with ⟨e | _, made⟩
  · rfl
  · simp only [Except.mapError]
    cases made.write (Path.join directory sourceFile) code.toUTF8 with
    | error e => rfl
    | ok written => rfl

/-- Writing the outputs leaves both files in place, or fails on the way to that. -/
theorem writeOutputs_cases (plain : fs.IsPlain) (directory code list : String)
    (events : List Event) :
    (∃ path cause after,
      (writeOutputs directory code list).on events fs = ⟨.error (.write path cause), events, after⟩ ∧
        fs.LeavesPartly after directory code) ∨
    ∃ after, (writeOutputs directory code list).on events fs = ⟨.ok (), events, after⟩ ∧
      fs.Delivers after directory code list := by
  rw [on_writeOutputs]
  have made := FileSystem.createDirectories_onlyMakes plain directory
  generalize fs.createDirectories directory = outcome at made ⊢
  rcases outcome with ⟨e | _, middle⟩
  · exact .inl ⟨_, e, middle, rfl, .ofOnlyMakes made code⟩
  · have plain_middle := made.isPlain plain
    cases first : middle.write (Path.join directory sourceFile) code.toUTF8 with
    | error e =>
      simp only [first]
      exact .inl ⟨_, e, middle, rfl, .ofOnlyMakes made code⟩
    | ok written =>
      have source := made.sourceWritten plain_middle first
      simp only [first]
      cases second : written.write (Path.join directory marshalInFile) list.toUTF8 with
      | error e => exact .inl ⟨_, e, written, rfl, .ofSourceWritten source⟩
      | ok after => exact .inr ⟨after, rfl, source.delivers (source.isPlain plain) second⟩

/-- Over earlier outputs new ones can always be written, and nothing else is touched. -/
theorem writeOutputs_over {directory : String} (plain : fs.IsPlain)
    (there : fs.HasOutputs directory) (code list : String) (events : List Event) :
    ∃ after, (writeOutputs directory code list).on events fs = ⟨.ok (), events, after⟩ ∧
      fs.Delivers after directory code list ∧
      ∀ l, l ≠ fs.sourcePlace directory → l ≠ fs.listPlace directory →
        after.entry? l = fs.entry? l := by
  have made : fs.createDirectories directory = (.ok (), fs) :=
    FileSystem.createDirectories_of_reached plain isFileName_sourceFile there.reached
  obtain ⟨oldSource, source⟩ := there.source
  obtain ⟨oldList, listed⟩ := there.list
  rw [← FileSystem.place_sourceFile] at source
  have first := FileSystem.write_of_file plain
    (Path.join_ne_empty directory isFileName_sourceFile) there.reached source code.toUTF8
  have written := (FileSystem.OnlyMakes.refl fs directory).sourceWritten plain first
  rw [FileSystem.place_sourceFile] at first written
  have apart := (FileSystem.sourcePlace_ne_listPlace fs directory).symm
  rw [← FileSystem.entry?_put_of_ne apart, ← FileSystem.listPlace_congr written.current,
    ← FileSystem.place_marshalInFile] at listed
  have second := FileSystem.write_of_file (written.isPlain plain)
    (Path.join_ne_empty directory isFileName_marshalInFile)
    (FileSystem.reaches_marshalInFile_iff.2 written.reached) listed list.toUTF8
  have delivers := written.delivers (written.isPlain plain) second
  rw [FileSystem.place_marshalInFile, FileSystem.listPlace_congr written.current] at second delivers
  refine ⟨_, ?_, delivers, fun l notSource notList => ?_⟩
  · rw [on_writeOutputs, made]
    simp only [first, second]
  · rw [FileSystem.entry?_put_of_ne notList, FileSystem.entry?_put_of_ne notSource]

theorem utf8_size_ne_zero {text : String} (filled : text ≠ "") : text.toUTF8.size ≠ 0 := by
  have same : text.toUTF8.size = text.utf8ByteSize := rfl
  rw [same]
  exact mt String.utf8ByteSize_eq_zero_iff.1 filled

/-- Outputs that are in place are found to be. -/
theorem on_verifyOutputs {directory code list : String} (plain : fs.IsPlain)
    (there : fs.Holds directory code list) (filled : code ≠ "") (events : List Event) :
    (verifyOutputs directory).on events fs = ⟨.ok (), events, fs⟩ := by
  have source := FileSystem.size_of_file plain
    (Path.join_ne_empty directory isFileName_sourceFile) there.reached
    (by rw [FileSystem.place_sourceFile, there.source])
  have listed := FileSystem.size_of_file plain
    (Path.join_ne_empty directory isFileName_marshalInFile)
    (FileSystem.reaches_marshalInFile_iff.2 there.reached)
    (by rw [FileSystem.place_marshalInFile, there.list])
  have size_by : ∀ path, (FileAccess.size path : StateM FileSystem _).run fs = (fs.size path, fs) :=
    fun _ => rfl
  unfold verifyOutputs
  simp only [on_bind, on_access, size_by, source, listed]
  obtain ⟨n, positive⟩ := Nat.exists_eq_succ_of_ne_zero (utf8_size_ne_zero filled)
  rw [positive]
  rfl

end Run

/-- What is reported of a generation whose files are in a directory. -/
def Generation.report (generation : Generation) (directory : String) (thunks : Thunks) : Report :=
  { outDirectory := directory, emitted := thunks.emitted.length, skipped := thunks.skipped
    marshalInTypes := generation.generator.flagged.size }

namespace Run

variable {events : List Event} {fs : FileSystem} {generation : Generation} {directory : String}

theorem on_finish (directory : String) (generation : Generation) (events : List Event)
    (fs : FileSystem) :
    (finish directory generation).on events fs =
      match generation.result with
      | .error fault => ⟨.error (.unsupported fault), events ++ generation.events, fs⟩
      | .ok thunks =>
        match (writeOutputs directory thunks.code generation.generator.marshalInList).on
          (events ++ generation.events) fs with
        | ⟨.error e, events, fs⟩ => ⟨.error e, events, fs⟩
        | ⟨.ok (), events, fs⟩ =>
          match (verifyOutputs directory).on (events ++ [.verifying]) fs with
          | ⟨.error e, events, fs⟩ => ⟨.error e, events, fs⟩
          | ⟨.ok (), events, fs⟩ =>
            ⟨.ok (generation.report directory thunks), events ++
              [.finished thunks.emitted.length thunks.skipped.length
                generation.generator.flagged.size], fs⟩ := by
  unfold finish
  simp only [on_bind, on_reportAll, on_orFail]
  cases generation.result with
  | error fault => rfl
  | ok thunks =>
    simp only [Except.mapError, on_report, on_pure]
    rcases (writeOutputs directory thunks.code generation.generator.marshalInList).on
      (events ++ generation.events) fs with ⟨e | ⟨⟩, later, files⟩
    · rfl
    · dsimp only
      generalize (verifyOutputs directory).on (later ++ [Event.verifying]) files = last
      rcases last with ⟨e | ⟨⟩, _, _⟩ <;> rfl

end Run

end HostCall
