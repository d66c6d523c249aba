import HostCall.Proofs.Places

/-!
Making directories in a file system without links. Whether it succeeds or fails, nothing else
becomes of the file system than that directories are new where nothing was, each at a place that
the path or a path above it leads to; and where a file is already reached, nothing is made.
-/
namespace HostCall.FileSystem

variable {fs before middle after : FileSystem} {location : Location} {path : String}

theorem foldl_parts (path : String) (location : Location) :
    (Path.parts path).foldl advance location = (Path.names path.toList).foldl advance location := by
  rw [Path.parts_eq]
  split
  · rw [List.foldl_append]
    rfl
  · rfl

theorem place_congr (same : after.current = before.current) : after.place = before.place := by
  funext path
  unfold place start
  rw [same]

theorem start_join (fs : FileSystem) (directory : String) {name : String}
    (h : Path.IsFileName name) : fs.start (Path.join directory name) = fs.start directory := by
  unfold start
  rw [Path.isAbsolute_join directory h]

theorem place_join (fs : FileSystem) (directory : String) {name : String}
    (h : Path.IsFileName name) :
    fs.place (Path.join directory name) = fs.place directory ++ [name] := by
  unfold place
  rw [Path.parts_join directory h, start_join fs directory h, foldl_parts, List.foldl_append]
  simp [advance, h.ordinary]

theorem place_trimSeparators (fs : FileSystem) (path : String) :
    fs.place (Path.trimSeparators path) = fs.place path := by
  unfold place start
  rw [Path.parts_trimSeparators, Path.isAbsolute_trimSeparators, foldl_parts]

/-- A file below a directory is reached if the directory is, and is one. -/
theorem reaches_join {directory name : String} (h : Path.IsFileName name) :
    fs.Reaches (Path.join directory name) ↔
      fs.Passes (fs.start directory) (Path.names directory.toList) ∧
        fs.entry? (fs.place directory) = some .directory := by
  unfold Reaches place
  rw [Path.parts_join directory h, start_join fs directory h, passes_append, foldl_parts]
  simp [Passes]

theorem IsPlain.ofEntries (plain : before.IsPlain)
    (h : ∀ l, after.entry? l = before.entry? l ∨ after.entry? l = some .directory ∨
      ∃ bytes, after.entry? l = some (.file bytes)) : after.IsPlain := by
  intro l entry known
  rcases h l with same | directory | ⟨bytes, file⟩
  · exact plain l entry (same ▸ known)
  · exact .inl (Option.some.inj (known.symm.trans directory))
  · exact .inr ⟨bytes, Option.some.inj (known.symm.trans file)⟩

/-- At a place where nothing was there is a directory, and the path or one above it leads there. -/
structure Made (before after : FileSystem) (path : String) (location : Location) : Prop where
  absent : before.entry? location = none
  present : after.entry? location = some .directory
  onTheWay : ∃ above, Path.IsAbove above path ∧ before.place above = location

/-- Nothing is different but directories that were made for a path. -/
structure OnlyMakes (before after : FileSystem) (path : String) : Prop where
  current : after.current = before.current
  entries : ∀ l, after.entry? l = before.entry? l ∨ Made before after path l

namespace OnlyMakes

theorem refl (fs : FileSystem) (path : String) : OnlyMakes fs fs path := ⟨rfl, fun _ => .inl rfl⟩

theorem trans (first : OnlyMakes before middle path) (second : OnlyMakes middle after path) :
    OnlyMakes before after path where
  current := second.current.trans first.current
  entries l := by
    rcases second.entries l with kept | made
    · rcases first.entries l with same | earlier
      · exact .inl (kept.trans same)
      · exact .inr ⟨earlier.absent, kept.trans earlier.present, earlier.onTheWay⟩
    · rcases first.entries l with same | earlier
      · obtain ⟨above, isAbove, leads⟩ := made.onTheWay
        rw [place_congr first.current] at leads
        exact .inr ⟨same ▸ made.absent, made.present, above, isAbove, leads⟩
      · exact absurd (earlier.present.symm.trans made.absent) nofun

theorem ofParent {parent : String} (above : Path.parent? path = some parent)
    (h : OnlyMakes before after parent) : OnlyMakes before after path where
  current := h.current
  entries l := by
    rcases h.entries l with same | ⟨absent, present, above', isAbove, leads⟩
    · exact .inl same
    · exact .inr ⟨absent, present, above', .parent above isAbove, leads⟩

theorem directory (h : OnlyMakes before after path)
    (there : before.entry? location = some .directory) : after.entry? location = some .directory := by
  rcases h.entries location with same | made
  · exact same.trans there
  · exact made.present

theorem isPlain (h : OnlyMakes before after path) (plain : before.IsPlain) : after.IsPlain :=
  plain.ofEntries fun l => (h.entries l).imp id fun made => .inl made.present

end OnlyMakes

theorem createDirectory_onlyMakes (plain : fs.IsPlain) (h : fs.createDirectory path = .ok after) :
    OnlyMakes fs after path := by
  unfold createDirectory at h
  split at h
  · cases h
  · rename_i directory name missing
    cases h
    obtain ⟨_, leads, absent⟩ := locate_missing plain missing
    rw [place_trimSeparators] at leads
    refine ⟨rfl, fun l => ?_⟩
    by_cases here : l = directory ++ [name]
    · subst here
      exact .inr ⟨absent, entry?_put_self (by simp), path, .self path, leads⟩
    · exact .inl (entry?_put_of_ne here)
  · cases h

theorem ensureDirectory_onlyMakes (plain : fs.IsPlain) (path : String) :
    OnlyMakes fs (fs.ensureDirectory path).2 path := by
  unfold ensureDirectory
  split
  · rename_i after made
    exact createDirectory_onlyMakes plain made
  · exact .refl fs path

theorem createWithParents_onlyMakes (plain : fs.IsPlain) (depth : Nat) (path : String) :
    OnlyMakes fs (fs.createWithParents depth path).2 path := by
  induction depth generalizing path with
  | zero => exact .refl fs path
  | succ depth ih =>
    unfold createWithParents
    split
    · exact .refl fs path
    · split
      · rename_i after made
        exact createDirectory_onlyMakes plain made
      · split
        · exact .refl fs path
        · rename_i parent above
          have parents := (ih parent).ofParent above
          split
          · rename_i e stopped outcome
            rw [outcome] at parents
            exact parents
          · rename_i u middle outcome
            rw [outcome] at parents
            exact parents.trans (ensureDirectory_onlyMakes (parents.isPlain plain) path)
      · exact .refl fs path

theorem createDirectories_onlyMakes (plain : fs.IsPlain) (path : String) :
    OnlyMakes fs (fs.createDirectories path).2 path :=
  createWithParents_onlyMakes plain _ path

/-- Above a file that is reached no directory is missing, and none is made. -/
theorem createDirectories_of_reached (plain : fs.IsPlain) {directory name : String}
    (h : Path.IsFileName name) (reached : fs.Reaches (Path.join directory name)) :
    fs.createDirectories directory = (.ok (), fs) := by
  obtain ⟨passes, there⟩ := (reaches_join h).1 reached
  unfold createDirectories createWithParents
  by_cases empty : directory = ""
  · rw [if_pos empty]
  · have leads : fs.Reaches directory := by
      unfold Reaches
      rw [Path.parts_eq]
      split
      · rw [passes_append]
        refine ⟨passes, ?_, trivial⟩
        rwa [← foldl_parts]
      · exact passes
    have found : fs.locate true directory = .ok (.found (fs.place directory) .directory) :=
      (locate_eq_found_iff plain).2 ⟨empty, leads, rfl, there⟩
    have trimmed : fs.locate false (Path.trimSeparators directory) =
        .ok (.found (fs.place directory) .directory) := by
      refine (locate_eq_found_iff plain).2
        ⟨Path.trimSeparators_ne_empty empty, ?_, place_trimSeparators fs directory, there⟩
      unfold Reaches start
      rw [Path.parts_trimSeparators, Path.isAbsolute_trimSeparators]
      exact passes
    have exists_already : fs.createDirectory directory = .error .alreadyExists := by
      unfold createDirectory
      rw [trimmed]
    have is_directory : fs.isDirectory directory = true := by
      unfold isDirectory
      rw [found]
    rw [if_neg empty, exists_already]
    simp [is_directory]

end HostCall.FileSystem
