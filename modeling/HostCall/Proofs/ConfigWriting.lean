import HostCall.Proofs.ConfigText

/-!
Writing configuration files. Whatever a configuration states can be written, and what is written is
read with the defaults of the rest, unless something is left out that has to be there.
-/
namespace HostCall

namespace Toml.Section

def HasSpelling (s : Section) : Prop :=
  IsBarePath s.path ∧ ∀ x ∈ s.assignments, IsBarePath x.1 ∧ x.2.HasSpelling

theorem hasSpelling_lines {s : Section} (h : s.HasSpelling) :
    ∀ line ∈ s.lines, line.HasSpelling := by
  intro line member
  rcases List.mem_cons.1 member with rfl | assigned
  · split <;> exact h.1
  · obtain ⟨x, listed, rfl⟩ := List.mem_map.1 assigned
    exact h.2 x listed

theorem hasSpelling_flat {isElement : Bool} {path : List String} {pairs : Entries}
    (bare : IsBarePath path) (each : ∀ x ∈ pairs, IsBareKey x.1 ∧ x.2.HasSpelling) :
    HasSpelling ⟨isElement, path, Entries.flat pairs⟩ := by
  refine ⟨bare, fun x member => ?_⟩
  obtain ⟨y, listed, rfl⟩ := List.mem_map.1 member
  obtain ⟨key, value⟩ := each y listed
  exact ⟨key.path, value⟩

end Toml.Section

open Toml

namespace PartialConfig

theorem represents_strings {keys order : List String} (distinct : order.Nodup)
    (all : ∀ key ∈ keys, key ∈ order) (s : String → Option String) :
    (Entries.listed order (strings keys s)).Represents (strings keys s) :=
  Entries.represents_listed distinct fun k other => if_neg fun listed => other (all k listed)

def stringEntries (keys : List String) (s : String → Option String) : Entries :=
  .listed keys (strings keys s)

theorem represents_stringEntries {keys : List String} (distinct : keys.Nodup)
    (s : String → Option String) : (stringEntries keys s).Represents (strings keys s) :=
  represents_strings distinct (fun _ => id) s

def marshalKeys : List String := ["excluded_types", "on_unsupported", "map_memory"]

def marshalEntries (c : PartialConfig) : Entries := .listed marshalKeys c.marshalValues

def mappingSection (s : String → Option String) : Section :=
  .element ["marshal", "map_memory"] (stringEntries Mapping.keys s)

def sections (c : PartialConfig) : List Section :=
  .table ["paths"] (stringEntries Paths.keys c.paths) ::
    .table ["emit"] (stringEntries Settings.names c.settings) ::
    .table ["marshal"] c.marshalEntries :: (c.mappings.getD []).map mappingSection

def write (c : PartialConfig) : String := String.ofList (spellLines (fileLines c.sections))

variable {c : PartialConfig}

theorem represents_marshalEntries : c.marshalEntries.Represents c.marshalValues := by
  refine Entries.represents_listed (by decide) fun k other => ?_
  simp only [marshalKeys, List.mem_cons, List.not_mem_nil, or_false, not_or] at other
  simp [marshalValues, other]

theorem mixes_mappings (mappings : List (String → Option String)) :
    Section.Mixes "marshal" "map_memory" none (mappings.map (stringEntries Mapping.keys))
      (mappings.map mappingSection) := by
  induction mappings with
  | nil => exact .nil
  | cons s mappings ih =>
    exact .element (represents_stringEntries (by decide) s).distinct ih

theorem under_mappings (key : String) (mappings : List (String → Option String)) :
    Section.under key (mappings.map mappingSection) =
      if key = "marshal" then mappings.map mappingSection else [] := by
  split
  · next same =>
    refine List.filter_eq_self.2 fun s member => ?_
    obtain ⟨_, _, rfl⟩ := List.mem_map.1 member
    simp [mappingSection, Section.element, same]
  · next other =>
    refine List.filter_eq_nil_iff.2 fun s member => ?_
    obtain ⟨_, _, rfl⟩ := List.mem_map.1 member
    simpa [mappingSection, Section.element] using Ne.symm other

theorem under_paths (c : PartialConfig) : Section.under "paths" c.sections =
    [.table ["paths"] (stringEntries Paths.keys c.paths)] := by
  rw [sections, Section.under_cons_self rfl, Section.under_cons_of_ne rfl (by decide),
    Section.under_cons_of_ne rfl (by decide), under_mappings, if_neg (by decide)]

theorem under_emit (c : PartialConfig) : Section.under "emit" c.sections =
    [.table ["emit"] (stringEntries Settings.names c.settings)] := by
  rw [sections, Section.under_cons_of_ne rfl (by decide), Section.under_cons_self rfl,
    Section.under_cons_of_ne rfl (by decide), under_mappings, if_neg (by decide)]

theorem under_marshal (c : PartialConfig) : Section.under "marshal" c.sections =
    .table ["marshal"] c.marshalEntries :: (c.mappings.getD []).map mappingSection := by
  rw [sections, Section.under_cons_of_ne rfl (by decide), Section.under_cons_of_ne rfl (by decide),
    Section.under_cons_self rfl, under_mappings, if_pos rfl]

theorem arranges_sections (c : PartialConfig) : c.Arranges c.sections where
  known := by
    simp [sections, mappingSection, Section.table, Section.element]
  paths := ⟨_, c.under_paths, represents_stringEntries (by decide) c.paths⟩
  settings := ⟨_, .inl c.under_emit, represents_stringEntries (by decide) c.settings⟩
  marshalling := by
    refine ⟨some c.marshalEntries, (c.mappings.getD []).map (stringEntries Mapping.keys), ?_,
      represents_marshalEntries, ?_⟩
    · rw [under_marshal]
      exact .header represents_marshalEntries.distinct (mixes_mappings _)
    · refine List.forall₂_map_right_iff.2 (List.forall₂_same.2 fun s _ => ?_)
      exact represents_stringEntries (by decide) s

theorem spelled_strings {keys order : List String} (bare : ∀ key ∈ keys, IsBareKey key)
    (s : String → Option String) :
    ∀ x ∈ Entries.listed order (strings keys s), IsBareKey x.1 ∧ x.2.HasSpelling := by
  intro x member
  obtain ⟨listed, v, _, same⟩ := strings_eq_some (Entries.value_of_mem_listed member)
  exact ⟨bare x.1 listed, .inl ⟨v, same⟩⟩

theorem spelled_marshalEntries (c : PartialConfig) :
    ∀ x ∈ c.marshalEntries, IsBareKey x.1 ∧ x.2.HasSpelling := by
  intro x member
  have value := Entries.value_of_mem_listed member
  unfold marshalValues at value
  split at value
  · next types =>
    obtain ⟨items, _, same⟩ := Option.map_eq_some_iff.1 value
    exact ⟨types ▸ by decide, .inr ⟨items, same.symm⟩⟩
  split at value
  · next policy =>
    obtain ⟨word, _, same⟩ := Option.map_eq_some_iff.1 value
    exact ⟨policy ▸ by decide, .inl ⟨_, same.symm⟩⟩
  split at value
  · next mappings =>
    split at value
    · exact ⟨mappings ▸ by decide, .inr ⟨[], (Option.some.inj value).symm⟩⟩
    · cases value
    · cases value
  · cases value

theorem isBarePath_paths : IsBarePath ["codegen", "paths"] := by decide

theorem isBarePath_emit : IsBarePath ["codegen", "emit"] := by decide

theorem isBarePath_marshal : IsBarePath ["codegen", "marshal"] := by decide

theorem isBarePath_mapping : IsBarePath ["codegen", "marshal", "map_memory"] := by decide

theorem hasSpelling_sections (c : PartialConfig) :
    ∀ s ∈ c.sections, (s.within "codegen").HasSpelling := by
  simp only [sections, List.forall_mem_cons]
  refine ⟨?_, ?_, ?_, ?_⟩
  · exact Section.hasSpelling_flat isBarePath_paths (spelled_strings (by decide) c.paths)
  · exact Section.hasSpelling_flat isBarePath_emit (spelled_strings (by decide) c.settings)
  · exact Section.hasSpelling_flat isBarePath_marshal c.spelled_marshalEntries
  · intro s member
    obtain ⟨stated, _, rfl⟩ := List.mem_map.1 member
    exact Section.hasSpelling_flat isBarePath_mapping (spelled_strings (by decide) stated)

theorem hasSpelling_fileLines {ss : List Section}
    (h : ∀ s ∈ ss, (s.within "codegen").HasSpelling) : ∀ line ∈ fileLines ss, line.HasSpelling := by
  intro line member
  obtain ⟨s, listed, inside⟩ := List.mem_flatMap.1 member
  obtain ⟨t, known, rfl⟩ := List.mem_map.1 listed
  exact Section.hasSpelling_lines (h t known) line inside

theorem isWritten_write (c : PartialConfig) : c.IsWritten c.write := by
  refine ⟨c.sections, c.arranges_sections, ?_⟩
  have text := spellsLines_spell (hasSpelling_fileLines c.hasSpelling_sections) .nil
  rw [List.append_nil, List.append_nil] at text
  rwa [write, String.toList_ofList]

/-- Whatever is stated can be written; and a text that states it is read as what it states with the
defaults of the rest, unless it leaves out what has to be there. -/
theorem ofToml_written (c : PartialConfig) :
    c.IsWritten c.write ∧ ∀ text, c.IsWritten text →
      (c.leftOut = [] → ∃ config, Config.ofToml text = .ok config ∧ c.IsCompletedTo config) ∧
      (c.leftOut ≠ [] →
        ∃ key ∈ c.leftOut, Config.ofToml text = Reading.mismatch (.missingField key)) := by
  refine ⟨c.isWritten_write, fun text written => ?_⟩
  rcases ofToml_completes written with
    ⟨config, read, complete, completed⟩ | ⟨_, failed, key, listed, rfl⟩
  · exact ⟨fun _ => ⟨config, read, completed⟩, fun lacking => absurd complete lacking⟩
  · refine ⟨fun complete => ?_, fun _ => ⟨key, listed, failed⟩⟩
    rw [complete] at listed
    cases listed

def oddMapping : String → Option String := fun k =>
  [("function", "f"), ("param", "p"), ("handle", "h"), ("size", "s")].lookup k

def oddConfig : PartialConfig where
  paths := fun k => [("descriptors", "d"), ("out", "o")].lookup k
  settings := fun k => [("log_fn", "kwarn")].lookup k
  excludedTypes := none
  onUnsupported := some .abort
  mappings := some [oddMapping]

def oddMappingEntries : Entries :=
  [("size", .string "s"), ("param", .string "p"), ("handle", .string "h"),
    ("function", .string "f")]

def oddPathEntries : Entries := [("out", .string "o"), ("descriptors", .string "d")]

def oddSections : List Section := [
  .element ["marshal", "map_memory"] oddMappingEntries,
  .table ["emit"] [("log_fn", .string "kwarn")],
  .table ["paths"] oddPathEntries,
  .table ["marshal"] [("on_unsupported", .string "abort")]]

def oddStart : String :=
  "[[codegen.marshal.map_memory]]\nsize = \"s\"\nparam = \"p\"\nhandle = \"h\"\nfunction = \"f\"\n"

def oddEnd : String :=
  "[codegen.paths]\nout = \"o\"\ndescriptors = \"d\"\n[codegen.marshal]\non_unsupported = \"abort\"\n"

/-- The tables and their keys are out of order, and there are comments and an escape. -/
def oddText : String :=
  "# mappings\n" ++ oddStart ++ "[codegen.emit]\n\tlog_fn=\"\\u006bwarn\" # log\r\n" ++ oddEnd

theorem oddMapping_listed : oddMappingEntries = .listed
    ["size", "param", "handle", "guest_out", "function"] (strings Mapping.keys oddMapping) := by
  simp [oddMappingEntries, Entries.listed, strings, oddMapping, Mapping.keys, Mapping.requiredKeys,
    List.lookup_cons]

theorem oddPaths_listed : oddPathEntries =
    .listed ["out", "descriptors"] (strings Paths.keys oddConfig.paths) := by
  simp [oddPathEntries, Entries.listed, strings, oddConfig, Paths.keys, List.lookup_cons]

theorem oddSettings_listed : [("log_fn", Item.string "kwarn")] =
    stringEntries Settings.names oddConfig.settings := by
  simp [stringEntries, Entries.listed, strings, oddConfig, Settings.names, Settings.keys]

theorem oddMarshalling_listed : [("on_unsupported", Item.string "abort")] =
    oddConfig.marshalEntries := by
  simp [marshalEntries, Entries.listed, marshalValues, oddConfig, marshalKeys, Policy.keyword]

theorem arranges_oddSections : oddConfig.Arranges oddSections where
  known := by
    simp [oddSections, Section.table, Section.element]
  paths := by
    refine ⟨oddPathEntries, rfl, ?_⟩
    rw [oddPaths_listed]
    exact represents_strings (by decide) (by decide) _
  settings := by
    refine ⟨_, .inl rfl, ?_⟩
    rw [oddSettings_listed]
    exact represents_stringEntries (by decide) _
  marshalling := by
    have mapping : oddMappingEntries.Represents (strings Mapping.keys oddMapping) := by
      rw [oddMapping_listed]
      exact represents_strings (by decide) (by decide) _
    have header :
        Entries.Represents [("on_unsupported", .string "abort")] oddConfig.marshalValues := by
      rw [oddMarshalling_listed]
      exact represents_marshalEntries
    exact ⟨_, _, .element mapping.distinct (.header header.distinct .nil), header,
      .cons mapping .nil⟩

theorem spells_oddLine : SpellsLine (.assignment ["log_fn"] (.string "kwarn"))
    "log_fn=\"\\u006bwarn\"".toList := by
  have path : SpellsPath ["log_fn"] ("log_fn".toList ++ []) :=
    spellsPath_spell (by decide) (by decide) .nil
  have unit : Json.SpellsUnit 'k'.toNat ['0', '0', '6', 'b'] :=
    .digits (w := 0) (x := 0) (y := 6) (z := 11) (.inl rfl) (.inl rfl) (.inl rfl) (.inl rfl)
  have value : SpellsString "kwarn".toList "\\u006bwarn".toList :=
    .cons (.unit unit) (spellsString_spell "warn".toList)
  exact .assignment (by decide) path .nil (.string value)

theorem hasSpelling_oddSections : ∀ s ∈ oddSections, (s.within "codegen").HasSpelling := by
  simp only [oddSections, List.forall_mem_cons]
  refine ⟨?_, ?_, ?_, ?_, by simp⟩
  · rw [oddMapping_listed]
    exact Section.hasSpelling_flat isBarePath_mapping (spelled_strings (by decide) oddMapping)
  · rw [oddSettings_listed]
    exact Section.hasSpelling_flat isBarePath_emit (spelled_strings (by decide) oddConfig.settings)
  · rw [oddPaths_listed]
    exact Section.hasSpelling_flat isBarePath_paths (spelled_strings (by decide) oddConfig.paths)
  · rw [oddMarshalling_listed]
    exact Section.hasSpelling_flat isBarePath_marshal oddConfig.spelled_marshalEntries

theorem spells_oddStart :
    oddStart = String.ofList (spellLines ((fileLines oddSections).take 5)) := by
  rfl

theorem spells_oddEnd : oddEnd = String.ofList (spellLines ((fileLines oddSections).drop 7)) := by
  rfl

theorem isWritten_oddText : oddConfig.IsWritten oddText := by
  refine ⟨oddSections, arranges_oddSections, ?_⟩
  have spelled := hasSpelling_fileLines hasSpelling_oddSections
  have comment (text : List Char) :
      EndsLine ([] ++ '#' :: (" mappings".toList ++ (['\n'] ++ text))) text :=
    .comment .nil (List.all_eq_true.1 (by decide)) (.inl (.inl rfl))
  have remark (text : List Char) :
      EndsLine ([' '] ++ '#' :: (" log".toList ++ (['\r', '\n'] ++ text))) text :=
    .comment (by simp [Blanks, isBlank]) (List.all_eq_true.1 (by decide)) (.inl (.inr rfl))
  have ending (text : List Char) : EndsLine ([] ++ (['\n'] ++ text)) text :=
    .blanks .nil (.inl (.inl rfl))
  have tab : Blanks ['\t'] := by simp [Blanks, isBlank]
  have title : SpellsLine (.header ["codegen", "emit"]) "[codegen.emit]".toList :=
    Line.spells_spell isBarePath_emit
  have after := spellsLines_spell
    (fun line member => spelled line (List.mem_of_mem_drop (i := 7) member)) .nil
  have all := SpellsLines.empty (comment _) (spellsLines_spell
    (fun line member => spelled line (List.mem_of_mem_take (i := 5) member))
    (.cons .nil title (ending _) (.cons tab spells_oddLine (remark _) after)))
  have lines : fileLines oddSections = (fileLines oddSections).take 5 ++
      .header ["codegen", "emit"] :: .assignment ["log_fn"] (.string "kwarn") ::
        ((fileLines oddSections).drop 7 ++ []) := rfl
  rw [lines, oddText, spells_oddStart, spells_oddEnd]
  simpa using all

/-- Nothing is stated. -/
def blankConfig : PartialConfig where
  paths := fun _ => none
  settings := fun _ => none
  excludedTypes := none
  onUnsupported := none
  mappings := none

theorem ofToml_written_oddText :
    oddConfig.IsWritten oddText ∧ oddConfig.leftOut = [] ∧
      (∃ config, Config.ofToml oddText = .ok config ∧ oddConfig.IsCompletedTo config) ∧
      blankConfig.IsWritten blankConfig.write ∧ blankConfig.leftOut ≠ [] ∧
      ∃ key ∈ blankConfig.leftOut,
        Config.ofToml blankConfig.write = Reading.mismatch (.missingField key) := by
  have nothingLeftOut : oddConfig.leftOut = [] := by decide
  have leftOut : blankConfig.leftOut ≠ [] := by decide
  obtain ⟨_, read⟩ := oddConfig.ofToml_written
  obtain ⟨written, refused⟩ := blankConfig.ofToml_written
  refine ⟨isWritten_oddText, nothingLeftOut, ?_, written, leftOut, ?_⟩
  · exact (read oddText isWritten_oddText).1 nothingLeftOut
  · exact (refused blankConfig.write written).2 leftOut

end PartialConfig

end HostCall
