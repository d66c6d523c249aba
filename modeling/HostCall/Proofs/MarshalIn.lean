import HostCall.Proofs.Pass

/-!
Which marshal-in routines a pass asks for: those of the struct parameters of the functions that got
a wrapper. A function that fails may have staged types before it did; none of them is flagged, then
or later.
-/
namespace HostCall

/-- A parameter of the function is copied in as a struct of this type. -/
def HostFunction.MarshalsIn (f : HostFunction) (c : Catalog) (type : String) : Prop :=
  ∃ p ∈ f.params, p.type = type ∧ c.strategy f.name p = .structIn ∧ c.isExcluded type = false

variable {c : Catalog} {settings : Settings} {f : HostFunction} {type : String}

theorem HostFunction.MarshalsIn.hasLayout (h : f.MarshalsIn c type) : c.hasLayout type = true := by
  obtain ⟨p, _, rfl, chosen, included⟩ := h
  rcases (Catalog.strategy_eq_structIn chosen).2 with excluded | layout
  · exact absurd excluded (Bool.eq_false_iff.1 included)
  · exact layout

theorem mem_requests_cons {d : Declaration} {ds : List Declaration} :
    type ∈ requests (d :: ds) ↔ d.demand = .marshalIn type ∨ type ∈ requests ds := by
  simp [requests, List.mem_filterMap, request?_eq_some_iff]

/-- The declarations of a whole function ask for the types that it marshals in. -/
theorem mem_requests_iff {params : List Param} {ds : List Declaration}
    (declared : List.Forall₂
      (fun p d => (c.strategy f.name p).declare c settings f.name p = .ok d) params ds) :
    type ∈ requests ds ↔
      ∃ p ∈ params, p.type = type ∧ c.strategy f.name p = .structIn ∧ c.isExcluded type = false := by
  induction declared with
  | nil => simp [requests]
  | cons first _ ih =>
    rw [mem_requests_cons, ih, Strategy.demand_eq_marshalIn_iff first, List.exists_mem_cons_iff]
    apply or_congr_left
    constructor
    · rintro ⟨chosen, included, same⟩
      exact ⟨same, chosen, included⟩
    · rintro ⟨same, chosen, included⟩
      exact ⟨chosen, included, same⟩

namespace Generator

variable {g : Generator}

/-- One emission flags what its function marshals in, if the function gets a wrapper at all. -/
theorem mem_flagged_emit (idle : g.staged = ∅) :
    type ∈ (g.emit f).generator.flagged ↔
      type ∈ g.flagged ∨ g.wraps f = true ∧ f.MarshalsIn g.catalog type := by
  cases h : (g.emit f).result with
  | error fault => simp [emit_flagged_of_error h, wraps_of_error h]
  | ok text =>
    have attempted := h
    rw [emit_result] at attempted
    have declared := (HostFunction.attempt_eq_ok attempted).1
    rw [mem_emit_flagged_of_ok h, idle, mem_requests_iff declared, wraps_of_ok h]
    constructor
    · rintro (old | ⟨staged | asked, _⟩)
      · exact .inl old
      · exact absurd staged (NameSet.not_mem_empty type)
      · exact .inr ⟨rfl, asked⟩
    · rintro (old | ⟨_, asked⟩)
      · exact .inl old
      · have layout := HostFunction.MarshalsIn.hasLayout asked
        exact .inr ⟨.inr asked, Catalog.isRegistered_of_hasLayout layout⟩

theorem emitAll_staged (policy : Policy) (functions : List HostFunction) (idle : g.staged = ∅) :
    (g.emitAll policy functions).generator.staged = ∅ := by
  have step : ∀ (g : Generator) (f : HostFunction), g.staged = ∅ →
      (g.emit f).generator.staged = ∅ := fun g f _ => emit_staged g f
  exact emitAll_invariant step policy functions idle

theorem mem_flagged_emitAll (policy : Policy) (functions : List HostFunction)
    (idle : g.staged = ∅) :
    type ∈ (g.emitAll policy functions).generator.flagged ↔
      type ∈ g.flagged ∨ ∃ f ∈ g.wrapped policy functions, f.MarshalsIn g.catalog type := by
  induction functions generalizing g with
  | nil =>
    rw [emitAll_nil, wrapped_nil]
    simp
  | cons f rest ih =>
    have step : type ∈ (g.emit f).generator.flagged ↔
        type ∈ g.flagged ∨ g.wraps f = true ∧ f.MarshalsIn g.catalog type :=
      mem_flagged_emit idle
    have tail := ih (g := (g.emit f).generator) (emit_staged g f)
    rw [step, wrapped_emit, emit_catalog] at tail
    cases h : (g.emit f).result with
    | ok text =>
      rw [emitAll_of_ok h]
      rw [wrapped_cons_of_ok (wraps_of_ok h), List.exists_mem_cons_iff]
      simpa [wraps_of_ok h, or_assoc] using tail
    | error fault =>
      cases policy with
      | skip =>
        rw [emitAll_skip_of_error h]
        rw [wrapped_skip_cons_of_error (wraps_of_error h)]
        simpa [wraps_of_error h] using tail
      | abort =>
        rw [emitAll_abort_of_error h]
        rw [wrapped_abort_cons_of_error (wraps_of_error h)]
        simpa [wraps_of_error h] using step

/-- What a pass leaves behind for the generator of marshal-in routines. Functions that failed ask
for nothing, however far they got; the last part says which functions of the run the wrapped ones
are. -/
theorem generate_flagged (g : Generator) (policy : Policy) (functions : List HostFunction)
    (idle : g.staged = ∅) :
    (∀ type, type ∈ (g.generate policy functions).generator.flagged ↔
      type ∈ g.flagged ∨
        ∃ f ∈ g.wrapped policy (sortByName functions), f.MarshalsIn g.catalog type) ∧
    (∀ type ∈ (g.generate policy functions).generator.flagged,
      type ∈ g.flagged ∨ g.catalog.category? type = some .struct ∨
        g.catalog.category? type = some .union) ∧
    (g.generate policy functions).generator.staged = ∅ ∧
    match (g.generate policy functions).result with
    | .ok thunks => thunks.emitted = (g.wrapped policy (sortByName functions)).map (·.name)
    | .error fault => policy = .abort ∧ ∃ failing rest,
        sortByName functions = g.wrapped policy (sortByName functions) ++ failing :: rest ∧
          (g.emit failing).result = .error fault := by
  refine ⟨fun type => mem_flagged_emitAll policy _ idle, ?_, emitAll_staged policy _ idle, ?_⟩
  · intro type flagged
    rcases (mem_flagged_emitAll policy _ idle).1 flagged with old | ⟨f, _, asked⟩
    · exact .inl old
    · exact .inr (Catalog.hasLayout_iff.1 asked.hasLayout)
  · rw [generate_result]
    cases stopped : (g.emitAll policy (sortByName functions)).stopped with
    | none => exact emitted_ofHandled g _
    | some fault => exact stopped_at_failing stopped

end Generator

def copier : Generator :=
  { catalog := { types := [⟨"VkMapInfo", .struct⟩, ⟨"VkSubmitInfo", .struct⟩] } }

/-- Fails at its second parameter, after a struct was staged for the first. -/
def failsLate : HostFunction :=
  { name := "vkFail"
    params := [
      { name := "info", type := "VkSubmitInfo", isPointer := true, guestValue := "ARG1"
        hostValue := "info" },
      { name := "out", type := "void", isPointer := true, isDoublePointer := true
        guestValue := "ARG2", hostValue := "out" }] }

def copiesInfo : HostFunction :=
  { name := "vkMap"
    params := [
      { name := "info", type := "VkMapInfo", isPointer := true, guestValue := "ARG1"
        hostValue := "info" }] }

theorem generate_flagged_failsLate :
    copier.staged = ∅ ∧
      (∀ type, type ∈ (copier.generate .skip [failsLate, copiesInfo]).generator.flagged ↔
        type = "VkMapInfo") ∧
      (copier.generate .skip [failsLate, copiesInfo]).generator.staged = ∅ := by
  obtain ⟨flagged, _, staged, _⟩ :=
    Generator.generate_flagged copier .skip [failsLate, copiesInfo] rfl
  have sorted : sortByName [failsLate, copiesInfo] = [failsLate, copiesInfo] :=
    List.mergeSort_of_pairwise (by decide)
  have wrapped : copier.wrapped .skip [failsLate, copiesInfo] = [copiesInfo] := by decide
  refine ⟨rfl, ?_, staged⟩
  intro type
  rw [flagged, sorted, wrapped]
  constructor
  · rintro (old | ⟨f, member, p, hp, same, _⟩)
    · exact absurd old (NameSet.not_mem_empty type)
    · rw [List.mem_singleton.1 member] at hp
      rw [← same, List.mem_singleton.1 hp]
  · rintro rfl
    exact .inr ⟨copiesInfo, by simp, copiesInfo.params.head (by decide), by decide, rfl,
      by decide, by decide⟩

end HostCall
