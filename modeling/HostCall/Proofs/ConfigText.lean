import HostCall.ConfigFile
import HostCall.Proofs.TableRecord
import HostCall.Proofs.TomlLines

/-!
Configuration files from the side of their writer, who may leave out what has a default. The keys
of each table may come in any order, the tables too, and strings may be written with any of their
escapes.
-/
namespace HostCall

open Toml

namespace Settings

/-- The keys of the settings, each with the setting that it stands for. -/
def keys : List (String × (Settings → String)) := [
  ("wrapper_prefix", wrapperPrefix), ("marshal_context", marshalContext),
  ("memory_accessor", memoryAccessor), ("dispatch_prefix", dispatchPrefix),
  ("status_local", statusLocal), ("success_value", successValue), ("log_fn", logFunction),
  ("map_fn", mapFunction), ("guest_write", guestWrite), ("return_store", returnStore),
  ("placeholder", placeholder)]

def names : List String := keys.map (·.1)

/-- The settings that are stated, with the defaults of the others. -/
def stated (s : String → Option String) : Settings where
  wrapperPrefix := (s "wrapper_prefix").getD ({} : Settings).wrapperPrefix
  marshalContext := (s "marshal_context").getD ({} : Settings).marshalContext
  memoryAccessor := (s "memory_accessor").getD ({} : Settings).memoryAccessor
  dispatchPrefix := (s "dispatch_prefix").getD ({} : Settings).dispatchPrefix
  statusLocal := (s "status_local").getD ({} : Settings).statusLocal
  successValue := (s "success_value").getD ({} : Settings).successValue
  logFunction := (s "log_fn").getD ({} : Settings).logFunction
  mapFunction := (s "map_fn").getD ({} : Settings).mapFunction
  guestWrite := (s "guest_write").getD ({} : Settings).guestWrite
  returnStore := (s "return_store").getD ({} : Settings).returnStore
  placeholder := (s "placeholder").getD ({} : Settings).placeholder

theorem stated_get (s : String → Option String) :
    ∀ x ∈ keys, x.2 (stated s) = (s x.1).getD (x.2 {}) := by
  simp [keys, stated]

theorem read_stated : ∀ field ∈ fields, ∀ t v, field.read (.string v) (stated t) =
    .ok (stated fun k => if k = field.name then some v else t k) := by
  simp only [fields, List.forall_mem_cons]
  refine ⟨?_, ?_, ?_, ?_, ?_, ?_, ?_, ?_, ?_, ?_, ?_, by simp⟩
  all_goals
    intro t v
    simp [setting, Field.ofReader, readString, Except.map, stated]

theorem stated_congr (t u : String → Option String) (same : ∀ k ∈ names, t k = u k) :
    stated t = stated u := by
  simp only [names, keys, List.map_cons, List.map_nil, List.forall_mem_cons] at same
  simp [stated, same]

theorem ofItem_stated (origin : Origin) {entries : Entries} {s : String → Option String}
    (h : entries.Represents (strings names s)) :
    ofItem (.table origin entries) = .ok (stated s) :=
  readRecord_strings _ stated .ok origin h read_stated stated_congr

end Settings

namespace Paths

def keys : List String := ["descriptors", "out"]

structure HasStated (s : String → Option String) (p : Paths) : Prop where
  descriptors : s "descriptors" = some p.descriptors
  out : s "out" = some p.out

def draft (s : String → Option String) : PathsDraft := ⟨s "descriptors", s "out"⟩

theorem ofItem_stated (origin : Origin) {entries : Entries} {s : String → Option String}
    (h : entries.Represents (strings keys s)) :
    (ofItem (.table origin entries)).Completes (leftOut keys s) (HasStated s) := by
  have finished : ofItem (.table origin entries) = ofDraft (draft s) := by
    refine readRecord_strings _ draft ofDraft origin h ?_ fun t u same => ?_
    · simp [fields, Field.ofReader, readString, Except.map, draft]
    · simp only [fields, Field.ofReader, List.map_cons, List.map_nil, List.forall_mem_cons] at same
      simp [draft, same]
  rw [finished]
  refine Reading.completes_require fun descriptors first => ?_
  refine Reading.completes_require fun out second => ?_
  exact .inl ⟨_, rfl, rfl, first, second⟩

end Paths

namespace Mapping

def requiredKeys : List String := ["function", "param", "handle", "size"]

def keys : List String := requiredKeys ++ ["guest_out"]

structure HasStated (s : String → Option String) (m : Mapping) : Prop where
  function : s "function" = some m.function
  param : s "param" = some m.param
  handle : s "handle" = some m.handle
  size : s "size" = some m.size
  guestOut : s "guest_out" = m.guestOut

def draft (s : String → Option String) : MappingDraft :=
  ⟨s "function", s "param", s "handle", s "size", s "guest_out"⟩

theorem ofItem_stated (origin : Origin) {entries : Entries} {s : String → Option String}
    (h : entries.Represents (strings keys s)) :
    (ofItem (.table origin entries)).Completes (leftOut requiredKeys s) (HasStated s) := by
  have finished : ofItem (.table origin entries) = ofDraft (draft s) := by
    refine readRecord_strings _ draft ofDraft origin h ?_ fun t u same => ?_
    · simp [fields, Field.ofReader, readString, Except.map, draft]
    · simp only [fields, Field.ofReader, List.map_cons, List.map_nil, List.forall_mem_cons] at same
      simp [draft, same]
  rw [finished]
  refine Reading.completes_require fun function first => ?_
  refine Reading.completes_require fun param second => ?_
  refine Reading.completes_require fun handle third => ?_
  refine Reading.completes_require fun size fourth => ?_
  exact .inl ⟨_, rfl, rfl, first, second, third, fourth, rfl⟩

end Mapping

/-- What a configuration file states. -/
structure PartialConfig where
  paths : String → Option String
  settings : String → Option String
  excludedTypes : Option (List String)
  onUnsupported : Option Policy
  mappings : Option (List (String → Option String))

namespace PartialConfig

variable {c : PartialConfig} {elements : List Entries}

def leftOut (c : PartialConfig) : List String :=
  HostCall.leftOut Paths.keys c.paths ++
    (c.mappings.getD []).flatMap (HostCall.leftOut Mapping.requiredKeys)

/-- What the table of the marshalling has under its own keys. It may state there that there are no
mappings; any others have tables of their own. -/
def marshalValues (c : PartialConfig) (k : String) : Option Item :=
  if k = "excluded_types" then c.excludedTypes.map fun types => .array (types.map .string)
  else if k = "on_unsupported" then c.onUnsupported.map fun policy => .string policy.keyword
  else if k = "map_memory" then
    match c.mappings with
    | some [] => some (.array [])
    | some (_ :: _) | none => none
  else none

def marshalItems (c : PartialConfig) (elements : List Entries) (k : String) : Option Item :=
  if k = "map_memory" then (Section.tables? elements).or (c.marshalValues k) else c.marshalValues k

/-- The marshalling has what is stated, and the defaults of the rest. -/
structure Marshals (c : PartialConfig) (m : Marshalling) : Prop where
  excludedTypes : m.excludedTypes = c.excludedTypes.getD ({} : Marshalling).excludedTypes
  onUnsupported : m.onUnsupported = c.onUnsupported.getD ({} : Marshalling).onUnsupported
  mappings : List.Forall₂ Mapping.HasStated (c.mappings.getD []) m.mappings

theorem policy_keyword (policy : Policy) : Policy.ofItem (.string policy.keyword) = .ok policy := by
  cases policy <;> rfl

theorem marshalItems_cases {k : String} {item : Item}
    (value : c.marshalItems elements k = some item) :
    (k = "excluded_types" ∧ ∃ types, c.excludedTypes = some types ∧
        readList readString item = .ok types) ∨
      (k = "on_unsupported" ∧ ∃ policy, c.onUnsupported = some policy ∧
        Policy.ofItem item = .ok policy) ∨
      k = "map_memory" ∧ readList Mapping.ofItem item =
        elements.mapM fun entries => Mapping.ofItem (.table .header entries) := by
  unfold marshalItems marshalValues at value
  by_cases types : k = "excluded_types"
  · subst types
    simp only [String.reduceEq, if_false, if_true] at value
    obtain ⟨types, stated, rfl⟩ := Option.map_eq_some_iff.1 value
    exact .inl ⟨rfl, types, stated, readList_strings types⟩
  by_cases policy : k = "on_unsupported"
  · subst policy
    simp only [String.reduceEq, if_false, if_true] at value
    obtain ⟨policy, stated, rfl⟩ := Option.map_eq_some_iff.1 value
    exact .inr (.inl ⟨rfl, policy, stated, policy_keyword policy⟩)
  by_cases mappings : k = "map_memory"
  · subst mappings
    simp only [String.reduceEq, if_false, if_true] at value
    refine .inr (.inr ⟨rfl, ?_⟩)
    cases elements with
    | nil =>
      simp only [Section.tables?, Option.none_or] at value
      split at value <;> cases value
      rfl
    | cons first others =>
      cases value
      rfl
  · simp [types, policy, mappings] at value

theorem marshalValues_mappings (c : PartialConfig) :
    c.mappings.getD [] = [] ∨ c.marshalValues "map_memory" = none := by
  simp only [marshalValues, String.reduceEq, if_false, if_true]
  cases stated : c.mappings with
  | none => exact .inl rfl
  | some mappings =>
    cases mappings with
    | nil => exact .inl rfl
    | cons first others => exact .inr rfl

/-- The part of the marshalling that the keys with these names give. -/
def marshalPart (c : PartialConfig) (mappings : List Mapping) (names : String → Bool) :
    Marshalling where
  excludedTypes :=
    if names "excluded_types" then c.excludedTypes.getD [] else ({} : Marshalling).excludedTypes
  onUnsupported :=
    if names "on_unsupported" then c.onUnsupported.getD .skip else ({} : Marshalling).onUnsupported
  mappings := if names "map_memory" then mappings else []

theorem isSome_excludedTypes :
    (c.marshalItems elements "excluded_types").isSome = c.excludedTypes.isSome := by
  rw [marshalItems, if_neg (by decide), marshalValues, if_pos rfl, Option.isSome_map]

theorem isSome_onUnsupported :
    (c.marshalItems elements "on_unsupported").isSome = c.onUnsupported.isSome := by
  rw [marshalItems, if_neg (by decide), marshalValues, if_neg (by decide), if_pos rfl,
    Option.isSome_map]

theorem eq_nil_of_absent (absent : (c.marshalItems elements "map_memory").isSome = false) :
    elements = [] := by
  cases elements with
  | nil => rfl
  | cons => cases absent

theorem marshals_part {mappings : List Mapping} {names : String → Bool}
    (types : names "excluded_types" = c.excludedTypes.isSome)
    (policy : names "on_unsupported" = c.onUnsupported.isSome)
    (listed : names "map_memory" = false → mappings = [])
    (stated : List.Forall₂ Mapping.HasStated (c.mappings.getD []) mappings) :
    c.Marshals (c.marshalPart mappings names) := by
  refine ⟨?_, ?_, ?_⟩
  · rw [marshalPart, types]
    cases c.excludedTypes <;> rfl
  · rw [marshalPart, policy]
    cases c.onUnsupported <;> rfl
  · rw [marshalPart]
    cases known : names "map_memory" with
    | true => exact stated
    | false => exact listed known ▸ stated

theorem marshalling_complete (origin : Origin) {entries : Entries}
    (h : entries.Represents (c.marshalItems elements)) {mappings : List Mapping}
    (read : elements.mapM (fun entries => Mapping.ofItem (.table .header entries)) = .ok mappings)
    (stated : List.Forall₂ Mapping.HasStated (c.mappings.getD []) mappings) :
    ∃ m, Marshalling.ofItem (.table origin entries) = .ok m ∧ c.Marshals m := by
  have record : readEntries Marshalling.fields entries {} =
      .ok (c.marshalPart mappings fun k => (c.marshalItems elements k).isSome) := by
    refine readEntries_represents (c.marshalPart mappings) h fun k item value => ?_
    rcases marshalItems_cases value with
      ⟨rfl, types, known, ofItem⟩ | ⟨rfl, policy, known, ofItem⟩ | ⟨rfl, ofItem⟩
    · refine ⟨_, rfl, fun names => (read_ofReader ofItem _).trans ?_⟩
      simp [marshalPart, known]
    · refine ⟨_, rfl, fun names => (read_ofReader ofItem _).trans ?_⟩
      simp [marshalPart, known]
    · refine ⟨_, rfl, fun names => (read_ofReader (ofItem.trans read) _).trans ?_⟩
      simp [marshalPart]
  refine ⟨_, readRecord_table _ _ origin record, ?_⟩
  refine marshals_part isSome_excludedTypes isSome_onUnsupported (fun absent => ?_) stated
  rw [eq_nil_of_absent absent] at read
  cases read
  rfl

theorem marshalling_lacking (origin : Origin) {entries : Entries}
    (h : entries.Represents (c.marshalItems elements)) {leftOut : List String} {e : Refusal}
    (failed : elements.mapM (fun entries => Mapping.ofItem (.table .header entries)) = .error e)
    (lacks : Lacks leftOut e) :
    ∃ e, Marshalling.ofItem (.table origin entries) = .error e ∧ Lacks leftOut e := by
  have record : ∃ e, readEntries Marshalling.fields entries {} = .error e ∧ Lacks leftOut e := by
    refine readEntries_error h (fun k item value => ?_) ?_ _
    · rcases marshalItems_cases value with
        ⟨rfl, types, known, ofItem⟩ | ⟨rfl, policy, known, ofItem⟩ | ⟨rfl, ofItem⟩
      · exact ⟨_, rfl, fun draft => .inl ⟨_, read_ofReader ofItem draft⟩⟩
      · exact ⟨_, rfl, fun draft => .inl ⟨_, read_ofReader ofItem draft⟩⟩
      · exact ⟨_, rfl, fun draft =>
          .inr ⟨e, read_ofReader_error (ofItem.trans failed) draft, lacks⟩⟩
    · cases elements with
      | nil => cases failed
      | cons first others =>
        exact ⟨"map_memory", _, _, rfl, rfl, fun draft => ⟨e, read_ofReader_error failed draft⟩⟩
  obtain ⟨e, failed, lacks⟩ := record
  exact ⟨e, readRecord_table_error _ _ origin failed, lacks⟩

theorem ofItem_marshalItems (origin : Origin) {entries : Entries}
    (h : entries.Represents (c.marshalItems elements))
    (each : List.Forall₂ (fun s pairs => pairs.Represents (strings Mapping.keys s))
      (c.mappings.getD []) elements) :
    (Marshalling.ofItem (.table origin entries)).Completes
      ((c.mappings.getD []).flatMap (HostCall.leftOut Mapping.requiredKeys)) c.Marshals := by
  have mappings := Reading.completes_mapM
    (each.imp fun s pairs represents => Mapping.ofItem_stated .header represents)
  rcases mappings with ⟨mappings, read, complete, stated⟩ | ⟨e, failed, lacks⟩
  · obtain ⟨m, ofItem, marshals⟩ := marshalling_complete origin h read stated
    exact .inl ⟨m, ofItem, complete, marshals⟩
  · exact .inr (marshalling_lacking origin h failed lacks)

/-- The configuration has what is stated, and the defaults of the rest. -/
structure IsCompletedTo (c : PartialConfig) (config : Config) : Prop where
  paths : Paths.HasStated c.paths config.paths
  settings : ∀ x ∈ Settings.keys, x.2 config.settings = (c.settings x.1).getD (x.2 {})
  marshalling : c.Marshals config.marshalling

/-- Stands for a table that is not there. -/
def noTable : Item := .table .implied []

/-- The tables of a configuration are there, or may be left out, and are read as what is stated. -/
structure IsReadFrom (c : PartialConfig) (values : String → Option Item) : Prop where
  known : ∀ k item, values k = some item → k = "paths" ∨ k = "emit" ∨ k = "marshal"
  paths : ∃ item, values "paths" = some item ∧
    (Paths.ofItem item).Completes (HostCall.leftOut Paths.keys c.paths) (Paths.HasStated c.paths)
  settings : Settings.ofItem ((values "emit").getD noTable) = .ok (Settings.stated c.settings)
  marshalling : (Marshalling.ofItem ((values "marshal").getD noTable)).Completes
    ((c.mappings.getD []).flatMap (HostCall.leftOut Mapping.requiredKeys)) c.Marshals

/-- The part of the configuration that the keys with these names give. -/
def configPart (paths : Paths) (settings : Settings) (marshalling : Marshalling)
    (names : String → Bool) : ConfigDraft where
  paths := if names "paths" then some paths else none
  settings := if names "emit" then some settings else none
  marshalling := if names "marshal" then some marshalling else none

theorem default_of_absent {α : Type} {read : Item → Reading α} {default x : α}
    {value : Option Item} (absent : read noTable = .ok default)
    (h : read (value.getD noTable) = .ok x) :
    (if value.isSome then some x else none).getD default = x := by
  cases value with
  | none => exact Except.ok.inj (absent.symm.trans h)
  | some item => rfl

theorem ofItem_complete (origin : Origin) {entries : Entries} {values : String → Option Item}
    (h : entries.Represents values) (readable : c.IsReadFrom values) {item : Item} {paths : Paths}
    (value : values "paths" = some item) (ofPaths : Paths.ofItem item = .ok paths)
    {marshalling : Marshalling}
    (ofMarshalling : Marshalling.ofItem ((values "marshal").getD noTable) = .ok marshalling) :
    Config.ofItem (.table origin entries) =
      .ok ⟨paths, Settings.stated c.settings, marshalling⟩ := by
  have ofSettings := readable.settings
  -- with a name for them, the settings of an absent table can be taken to be the default
  generalize Settings.stated c.settings = settings at ofSettings
  have record : readEntries Config.fields entries {} =
      .ok (configPart paths settings marshalling fun k => (values k).isSome) := by
    refine readEntries_represents (configPart paths settings marshalling) h fun k other here => ?_
    rcases readable.known k other here with rfl | rfl | rfl
    · rw [value] at here
      cases here
      exact ⟨_, rfl, fun names => (read_ofReader ofPaths _).trans (by simp [configPart])⟩
    · rw [here] at ofSettings
      exact ⟨_, rfl, fun names => (read_ofReader ofSettings _).trans (by simp [configPart])⟩
    · rw [here] at ofMarshalling
      exact ⟨_, rfl, fun names => (read_ofReader ofMarshalling _).trans (by simp [configPart])⟩
  refine (readRecord_table _ _ origin record).trans ?_
  have closed : Config.ofDraft (configPart paths settings marshalling fun k => (values k).isSome) =
      .ok ⟨paths, (if (values "emit").isSome then some settings else none).getD {},
        (if (values "marshal").isSome then some marshalling else none).getD {}⟩ := by
    simp only [configPart, value]
    rfl
  have noSettings : Settings.ofItem noTable = .ok {} := rfl
  have noMarshalling : Marshalling.ofItem noTable = .ok {} := rfl
  rw [closed, default_of_absent noSettings ofSettings,
    default_of_absent noMarshalling ofMarshalling]

theorem ofItem_lacking (origin : Origin) {entries : Entries} {values : String → Option Item}
    (h : entries.Represents values) (readable : c.IsReadFrom values)
    (bad : (∃ item e, values "paths" = some item ∧ Paths.ofItem item = .error e) ∨
      ∃ e, Marshalling.ofItem ((values "marshal").getD noTable) = .error e) :
    ∃ e, Config.ofItem (.table origin entries) = .error e ∧ Lacks c.leftOut e := by
  have record : ∃ e, readEntries Config.fields entries {} = .error e ∧ Lacks c.leftOut e := by
    refine readEntries_error h (fun k item here => ?_) ?_ _
    · rcases readable.known k item here with rfl | rfl | rfl
      · obtain ⟨_, value, completes⟩ := readable.paths
        rw [here] at value
        cases value
        exact ⟨_, rfl, read_ofReader_cases (completes.mono fun key => List.mem_append_left _)⟩
      · have ofSettings := readable.settings
        rw [here] at ofSettings
        exact ⟨_, rfl, fun draft => .inl ⟨_, read_ofReader ofSettings draft⟩⟩
      · have completes := readable.marshalling
        rw [here] at completes
        exact ⟨_, rfl, read_ofReader_cases (completes.mono fun key => List.mem_append_right _)⟩
    · rcases bad with ⟨item, e, value, failed⟩ | ⟨e, failed⟩
      · exact ⟨"paths", item, _, value, rfl, fun draft => ⟨e, read_ofReader_error failed draft⟩⟩
      · cases here : values "marshal" with
        | none =>
          rw [here] at failed
          cases failed
        | some item =>
          rw [here] at failed
          exact ⟨"marshal", item, _, here, rfl, fun draft => ⟨e, read_ofReader_error failed draft⟩⟩
  obtain ⟨e, failed, lacks⟩ := record
  exact ⟨e, readRecord_table_error _ _ origin failed, lacks⟩

theorem ofItem_completes (origin : Origin) {entries : Entries} {values : String → Option Item}
    (h : entries.Represents values) (readable : c.IsReadFrom values) :
    (Config.ofItem (.table origin entries)).Completes c.leftOut c.IsCompletedTo := by
  obtain ⟨item, value, paths⟩ := readable.paths
  rcases paths with ⟨paths, ofPaths, noPath, hasPaths⟩ | ⟨e, failed, _⟩
  · rcases readable.marshalling with ⟨m, ofMarshalling, noMapping, marshals⟩ | ⟨e, failed, _⟩
    · have read := ofItem_complete origin h readable value ofPaths ofMarshalling
      refine .inl ⟨_, read, ?_, hasPaths, Settings.stated_get c.settings, marshals⟩
      rw [leftOut, noPath, noMapping, List.append_nil]
    · exact .inr (ofItem_lacking origin h readable (.inr ⟨e, failed⟩))
  · exact .inr (ofItem_lacking origin h readable (.inl ⟨item, e, value, failed⟩))

/-- The sections of a configuration, in any order: one of the paths, one of the settings unless none
are stated, and those of the marshalling, if there are any. -/
structure Arranges (c : PartialConfig) (ss : List Section) : Prop where
  known : ∀ s ∈ ss, s.path.head? = some "paths" ∨ s.path.head? = some "emit" ∨
    s.path.head? = some "marshal"
  paths : ∃ pairs, Section.under "paths" ss = [.table ["paths"] pairs] ∧
    pairs.Represents (strings Paths.keys c.paths)
  settings : ∃ pairs,
    (Section.under "emit" ss = [.table ["emit"] pairs] ∨ Section.under "emit" ss = [] ∧ pairs = []) ∧
    pairs.Represents (strings Settings.names c.settings)
  marshalling : ∃ header elements,
    Section.Mixes "marshal" "map_memory" header elements (Section.under "marshal" ss) ∧
    (header.getD []).Represents c.marshalValues ∧
    List.Forall₂ (fun s pairs => pairs.Represents (strings Mapping.keys s))
      (c.mappings.getD []) elements

variable {ss : List Section}

/-- What the tables of a configuration are. -/
def configItems (paths : Entries) (settings marshalling : Option Item) (k : String) : Option Item :=
  if k = "paths" then some (.table .header paths)
  else if k = "emit" then settings
  else if k = "marshal" then marshalling
  else none

namespace Arranges

theorem settings_read (h : c.Arranges ss) :
    ∃ item : Option Item, Section.reviseAll (Section.under "emit" ss) none = some item ∧
      Settings.ofItem (item.getD noTable) = .ok (Settings.stated c.settings) := by
  obtain ⟨pairs, sections, represents⟩ := h.settings
  rcases sections with one | ⟨none, rfl⟩
  · rw [one]
    exact ⟨_, Section.reviseAll_table represents.distinct, Settings.ofItem_stated _ represents⟩
  · rw [none]
    exact ⟨_, rfl, Settings.ofItem_stated _ represents⟩

theorem marshalling_read (h : c.Arranges ss) :
    ∃ item : Option Item, Section.reviseAll (Section.under "marshal" ss) none = some item ∧
      (Marshalling.ofItem (item.getD noTable)).Completes
        ((c.mappings.getD []).flatMap (HostCall.leftOut Mapping.requiredKeys)) c.Marshals := by
  obtain ⟨header, elements, mixes, represents, each⟩ := h.marshalling
  have own (k : String) : (header.or none).bind (·.get? k) = c.marshalValues k := by
    rw [← represents.get]
    cases header <;> rfl
  have free : [] ++ elements = [] ∨ (header.or none).bind (·.get? "map_memory") = none := by
    rw [own]
    refine c.marshalValues_mappings.imp (fun none => ?_) id
    rw [none] at each
    cases each
    rfl
  obtain ⟨item, inner, added, mixed⟩ :=
    mixes.reviseAll (.start "map_memory") (.inr rfl) free
  have items : inner.Represents (c.marshalItems elements) := by
    have inside := mixed.represents
    simp only [own, List.nil_append] at inside
    exact inside
  refine ⟨item, added, ?_⟩
  rw [noTable, mixed.table]
  exact ofItem_marshalItems _ items each

theorem added (h : c.Arranges ss) {pairs : Entries} {settings marshalling : Option Item}
    (paths : Section.under "paths" ss = [.table ["paths"] pairs])
    (distinct : (pairs.map (·.1)).Nodup)
    (settingsAdded : Section.reviseAll (Section.under "emit" ss) none = some settings)
    (marshallingAdded : Section.reviseAll (Section.under "marshal" ss) none = some marshalling)
    (k : String) : Section.reviseAll (Section.under k ss) none =
      some (configItems pairs settings marshalling k) := by
  unfold configItems
  by_cases isPaths : k = "paths"
  · subst isPaths
    rw [paths, if_pos rfl]
    exact Section.reviseAll_table distinct
  by_cases isSettings : k = "emit"
  · subst isSettings
    exact settingsAdded
  by_cases isMarshalling : k = "marshal"
  · subst isMarshalling
    exact marshallingAdded
  · have nothing : Section.under k ss = [] := by
      refine List.filter_eq_nil_iff.2 fun s member same => ?_
      have known := h.known s member
      rw [eq_of_beq same] at known
      simp [isPaths, isSettings, isMarshalling] at known
    rw [nothing, if_neg isPaths, if_neg isSettings, if_neg isMarshalling]
    rfl

theorem named (h : c.Arranges ss) : ∀ s ∈ ss, s.path ≠ [] := by
  intro s member empty
  have known := h.known s member
  simp [empty] at known

theorem ofItem_completes (h : c.Arranges ss) :
    ∃ entries, Section.addAll ss [] = some entries ∧
      (Config.ofItem (.table .implied entries)).Completes c.leftOut c.IsCompletedTo := by
  obtain ⟨pairs, paths, pathsHeld⟩ := h.paths
  obtain ⟨settings, settingsAdded, settingsRead⟩ := h.settings_read
  obtain ⟨marshalling, marshallingAdded, marshallingRead⟩ := h.marshalling_read
  obtain ⟨entries, built, held⟩ := Section.addAll_represents h.named Entries.represents_nil.distinct
    (h.added paths pathsHeld.distinct settingsAdded marshallingAdded)
  refine ⟨entries, built, PartialConfig.ofItem_completes .implied held ⟨?_, ?_, ?_, ?_⟩⟩
  · intro k item value
    unfold configItems at value
    by_contra other
    obtain ⟨noPaths, noSettings, noMarshalling⟩ := by simpa only [not_or] using other
    simp [noPaths, noSettings, noMarshalling] at value
  · exact ⟨_, rfl, Paths.ofItem_stated _ pathsHeld⟩
  · exact settingsRead
  · exact marshallingRead

end Arranges

/-- The lines of a configuration file. -/
def fileLines (ss : List Section) : List Line :=
  (ss.map (Section.within "codegen")).flatMap Section.lines

/-- A text that states these things, in whatever order and spelling. -/
def IsWritten (c : PartialConfig) (text : String) : Prop :=
  ∃ ss, c.Arranges ss ∧ SpellsLines (fileLines ss) text.toList

theorem build_fileLines {entries : Entries} (filled : ss ≠ []) (named : ∀ s ∈ ss, s.path ≠ [])
    (added : Section.addAll ss [] = some entries) :
    build (fileLines ss) = some [("codegen", .table .implied entries)] := by
  rw [fileLines, Section.build_lines]
  exact Section.addAll_within filled named added

theorem ofEntries_codegen (item : Item) :
    Config.ofEntries [("codegen", item)] = Config.ofItem item := by
  have known : Field.named? Config.fileFields "codegen" = some (.ofReader "codegen"
      (·.codegen.isSome) Config.ofItem fun d x => { d with codegen := some x }) := rfl
  rw [Config.ofEntries, readEntries_cons known]
  cases read : Config.ofItem item with
  | error e =>
    rw [read_ofReader_error read]
    rfl
  | ok config =>
    rw [read_ofReader read]
    rfl

theorem ofToml_completes {text : String} (h : c.IsWritten text) :
    (Config.ofToml text).Completes c.leftOut c.IsCompletedTo := by
  obtain ⟨ss, arranges, spelled⟩ := h
  obtain ⟨entries, added, completes⟩ := arranges.ofItem_completes
  have filled : ss ≠ [] := by
    rintro rfl
    obtain ⟨_, one, _⟩ := arranges.paths
    cases one
  have read := ofText?_spelled spelled
  rw [build_fileLines filled arranges.named added] at read
  have same : Config.ofToml text = Config.ofItem (.table .implied entries) := by
    rw [Config.ofToml, read]
    exact ofEntries_codegen _
  exact same ▸ completes

end PartialConfig

end HostCall
