import HostCall.Proofs.Lookup
import HostCall.Proofs.NameOrder
import HostCall.Proofs.Pass

/-!
The order of what a run is given. Functions, types, mappings and exclusions may come in any order,
exclusions more than once, and entries may stand before others that overrule them: the generated
code, the reasons for what is left out, and the list of flagged types are the same.
-/
namespace HostCall

namespace Generator

variable {g : Generator} {c : Catalog}

/-- The generator with another catalog, as if it had worked with that one all along. -/
def within (g : Generator) (c : Catalog) : Generator := { g with catalog := c }

theorem record_within (g : Generator) (c : Catalog) (function : String) (d : Declaration) :
    (g.within c).record function d =
      ((g.record function d).1.within c, (g.record function d).2) := by
  obtain ⟨catalog, settings, staged, flagged, warned⟩ := g
  unfold record within
  cases d.demand with
  | nothing => rfl
  | marshalIn type => rfl
  | nullFor type => cases warned <;> rfl

theorem recordAll_within (g : Generator) (c : Catalog) (function : String)
    (ds : List Declaration) :
    (g.within c).recordAll function ds =
      ((g.recordAll function ds).1.within c, (g.recordAll function ds).2) := by
  induction ds generalizing g with
  | nil => rfl
  | cons d ds ih => simp only [recordAll, record_within, ih]

theorem commit_within (h : g.catalog.Agrees c) :
    (g.within c).commit = (g.commit.1.within c, g.commit.2) := by
  unfold commit within
  simp only [h.isRegistered_eq]

theorem emit_within (h : g.catalog.Agrees c) (f : HostFunction) :
    (g.within c).emit f =
      { g.emit f with generator := (g.emit f).generator.within c } := by
  have same : f.attempt (g.within c).catalog (g.within c).settings =
      f.attempt g.catalog g.settings := h.attempt_eq f g.settings
  have recorded := g.recordAll_generator f.name (f.attempt g.catalog g.settings).declarations
  have known : (g.recordAll f.name
      (f.attempt g.catalog g.settings).declarations).1.catalog.Agrees c := by
    rw [recorded]
    exact h
  unfold emit
  simp only [same, recordAll_within, commit_within known]
  cases (f.attempt g.catalog g.settings).result with
  | error fault => rfl
  | ok text => rfl

theorem emitAll_within (h : g.catalog.Agrees c) (policy : Policy)
    (functions : List HostFunction) :
    (g.within c).emitAll policy functions =
      { g.emitAll policy functions with
        generator := (g.emitAll policy functions).generator.within c } := by
  induction functions generalizing g with
  | nil => rfl
  | cons f rest ih =>
    -- Both passes get the same result for `f`, so they take the same branch.
    have first := emit_within h f
    have tail := ih (g := (g.emit f).generator) (by rw [emit_catalog]; exact h)
    have result : ((g.within c).emit f).result = (g.emit f).result := by rw [first]
    cases outcome : (g.emit f).result with
    | ok text =>
      rw [emitAll_of_ok outcome, emitAll_of_ok (result.trans outcome), first, tail]
    | error fault =>
      have failed := result.trans outcome
      cases policy with
      | skip => rw [emitAll_skip_of_error outcome, emitAll_skip_of_error failed, first, tail]
      | abort => rw [emitAll_abort_of_error outcome, emitAll_abort_of_error failed, first]

theorem generate_within (h : g.catalog.Agrees c) (policy : Policy)
    (functions : List HostFunction) :
    (g.within c).generate policy functions =
      { g.generate policy functions with
        generator := (g.generate policy functions).generator.within c } := by
  unfold generate
  rw [emitAll_within h]

end Generator

/-- What a run is given, apart from its settings and its policy. -/
structure Input extends Descriptors where
  marshalling : Marshalling := {}

namespace Input

/-- The pass of a generator that has done nothing before. -/
def generation (i : Input) (settings : Settings) (policy : Policy) : Generation :=
  Generator.generate { catalog := .ofConfig i.types i.marshalling, settings } policy i.functions

/-- The same input in another order, or with further entries that do not count. -/
inductive Rearranged : Input → Input → Prop where
  | functions {i : Input} {functions : List HostFunction} :
      i.functions.Perm functions → (i.functions.map (·.name)).Nodup →
      Rearranged i { i with functions }
  | types {i : Input} {types : List TypeEntry} :
      i.types.Perm types → (i.types.map (·.name)).Nodup → Rearranged i { i with types }
  | mappings {i : Input} {mappings : List Mapping} :
      i.marshalling.mappings.Perm mappings →
      (i.marshalling.mappings.map fun m => (m.function, m.param)).Nodup →
      Rearranged i { i with marshalling := { i.marshalling with mappings } }
  | excludedTypes {i : Input} {excludedTypes : List String} :
      (∀ type, type ∈ i.marshalling.excludedTypes ↔ type ∈ excludedTypes) →
      Rearranged i { i with marshalling := { i.marshalling with excludedTypes } }
  | overruledType {i : Input} {before after : List TypeEntry} {entry : TypeEntry} :
      i.types = before ++ after → (∃ other ∈ after, other.name = entry.name) →
      Rearranged i { i with types := before ++ entry :: after }
  | overruledMapping {i : Input} {before after : List Mapping} {entry : Mapping} :
      i.marshalling.mappings = before ++ after →
      (∃ other ∈ after, other.function = entry.function ∧ other.param = entry.param) →
      Rearranged i
        { i with marshalling := { i.marshalling with mappings := before ++ entry :: after } }
  | trans {i j k : Input} : Rearranged i j → Rearranged j k → Rearranged i k

variable {i j : Input}

/-- What can be seen of two generations is the same. -/
structure SameOutcome (x y : Generation) : Prop where
  result : y.result = x.result
  marshalInList : y.generator.marshalInList = x.generator.marshalInList

theorem sameOutcome_of_agrees
    (agree : (Catalog.ofConfig i.types i.marshalling).Agrees (.ofConfig j.types j.marshalling))
    (functions : j.functions = i.functions) (settings : Settings) (policy : Policy) :
    SameOutcome (i.generation settings policy) (j.generation settings policy) := by
  let g : Generator := { catalog := .ofConfig i.types i.marshalling, settings }
  have moved := Generator.generate_within (g := g) agree policy i.functions
  have result : j.generation settings policy =
      { i.generation settings policy with
        generator := (i.generation settings policy).generator.within
          (.ofConfig j.types j.marshalling) } := by
    unfold generation
    rw [functions]
    exact moved
  rw [result]
  exact ⟨rfl, rfl⟩

theorem generation_of_perm {functions : List HostFunction}
    (perm : i.functions.Perm functions) (distinct : (i.functions.map (·.name)).Nodup)
    (settings : Settings) (policy : Policy) :
    ({ i with functions } : Input).generation settings policy = i.generation settings policy := by
  unfold generation Generator.generate
  simp only [sortByName_eq_of_perm perm distinct]

/-- Neither the order of the input nor an entry that does not count can be seen in the outcome. -/
theorem generation_rearranged (h : i.Rearranged j) (settings : Settings) (policy : Policy) :
    SameOutcome (i.generation settings policy) (j.generation settings policy) := by
  induction h with
  | functions perm distinct =>
    rw [generation_of_perm perm distinct]
    exact ⟨rfl, rfl⟩
  | types perm distinct =>
    apply sameOutcome_of_agrees
    · exact Catalog.agrees_of_perm_types perm distinct
    · rfl
  | mappings perm distinct =>
    apply sameOutcome_of_agrees
    · exact Catalog.agrees_of_perm_mappings perm distinct
    · rfl
  | excludedTypes same =>
    apply sameOutcome_of_agrees
    · exact Catalog.agrees_of_same_excluded same
    · rfl
  | overruledType split later =>
    apply sameOutcome_of_agrees
    · exact Catalog.agrees_of_overruled_type split later
    · rfl
  | overruledMapping split later =>
    apply sameOutcome_of_agrees
    · exact Catalog.agrees_of_overruled_mapping split later
    · rfl
  | trans _ _ first second =>
    exact ⟨second.result.trans first.result, second.marshalInList.trans first.marshalInList⟩

def ordered : Input :=
  { types := [⟨"VkMapInfo", .struct⟩, ⟨"VkDevice", .handle⟩]
    functions := [
      { name := "vkUnmap"
        params := [
          { name := "info", type := "VkMapInfo", isPointer := true, guestValue := "ARG1"
            hostValue := "info" }] },
      { name := "vkMap"
        params := [
          { name := "ppData", type := "void", isPointer := true, isDoublePointer := true
            guestValue := "ARG1", hostValue := "ppData" }] }]
    marshalling := {
      excludedTypes := ["VkAllocationCallbacks", "VkDebugInfo"]
      mappings := [
        { function := "vkMap", param := "ppData", handle := "memory", size := "size" },
        { function := "vkMap", param := "ppView", handle := "view", size := "size" }] } }

/-- The same input with everything in another order and with entries that are overruled. -/
def disordered : Input :=
  { types := [⟨"VkDevice", .handle⟩, ⟨"VkMapInfo", .enum⟩, ⟨"VkMapInfo", .struct⟩]
    functions := ordered.functions.reverse
    marshalling := {
      excludedTypes := ["VkDebugInfo", "VkAllocationCallbacks", "VkDebugInfo"]
      mappings := [
        { function := "vkMap", param := "ppData", handle := "other", size := "0" },
        { function := "vkMap", param := "ppView", handle := "view", size := "size" },
        { function := "vkMap", param := "ppData", handle := "memory", size := "size" }] } }

theorem generation_disordered :
    ordered.Rearranged disordered ∧
      SameOutcome (ordered.generation {} .abort) (disordered.generation {} .abort) := by
  have functions : ordered.functions.Perm disordered.functions := .swap ..
  have types : ordered.types.Perm ordered.types.reverse := .swap ..
  have mappings : ordered.marshalling.mappings.Perm ordered.marshalling.mappings.reverse := .swap ..
  have excluded : ∀ type, type ∈ ordered.marshalling.excludedTypes ↔
      type ∈ disordered.marshalling.excludedTypes := by
    intro type
    simp only [ordered, disordered, List.mem_cons]
    tauto
  have rearranged : ordered.Rearranged disordered :=
    .trans (.functions functions (by decide)) <|
    .trans (.types types (by decide)) <|
    .trans (.overruledType (show ordered.types.reverse = [_] ++ [_] from rfl) (by decide)) <|
    .trans (.mappings mappings (by decide)) <|
    .trans (.overruledMapping
      (show ordered.marshalling.mappings.reverse = [] ++ [_, _] from rfl) (by decide)) <|
    .excludedTypes excluded
  exact ⟨rearranged, generation_rearranged rearranged {} .abort⟩

end Input

end HostCall
