import HostCall.Proofs.Events
import HostCall.Proofs.MarshalIn
import HostCall.Proofs.Operations
import HostCall.Proofs.Rollback

/-!
What a generator asks for of its own accord. However its strategies are used, inside wrappers and
outside them, on parameters that suit them and on others, they ask for marshal-in routines of
registered structs and unions that are not excluded, and of nothing else. So nothing unregistered
is ever staged, and no commit finds anything to report.
-/
namespace HostCall

/-- A type for which there can be a marshal-in routine. -/
structure Catalog.Marshallable (c : Catalog) (type : String) : Prop where
  registered : type ∈ c.names
  aggregate : c.category? type = some .struct ∨ c.category? type = some .union
  included : c.isExcluded type = false

/-- Operations in which the strategies of one table ask for routines, and nothing else does. -/
def Operation.LeavesRequests : Operation → Prop
  | .mark _ | .stage _ | .changeTable .. => False
  | .commit | .discard | .declare .. | .publish .. | .emit _ | .generate .. | .configure _
  | .resetWarning => True

namespace Catalog

variable {c : Catalog} {type : String}

theorem Marshallable.isRegistered (h : c.Marshallable type) : c.isRegistered type = true :=
  mem_names.1 h.registered

theorem marshallable_of_hasLayout (layout : c.hasLayout type = true)
    (included : c.isExcluded type = false) : c.Marshallable type :=
  ⟨mem_names.2 (isRegistered_of_hasLayout layout), hasLayout_iff.1 layout, included⟩

end Catalog

section Declarations

variable {c : Catalog} {settings : Settings} {type : String}

/-- A struct is copied in only after its arity, its exclusion and its category were looked at. -/
theorem Strategy.marshallable_of_demand {s : Strategy} {function : String} {p : Param}
    {d : Declaration} (declared : s.declare c settings function p = .ok d)
    (asked : d.demand = .marshalIn type) : c.Marshallable type := by
  obtain ⟨rfl, included, rfl⟩ := (demand_eq_marshalIn_iff declared).1 asked
  rcases (declareStruct_eq_ok declared).2 with ⟨excluded, _⟩ | ⟨_, layout, _⟩
  · exact absurd excluded (Bool.eq_false_iff.1 included)
  · exact Catalog.marshallable_of_hasLayout layout included

/-- Every type that an attempt asks for is marshallable, also if the attempt fails later. -/
theorem HostFunction.marshallable_of_requests {f : HostFunction}
    (asked : type ∈ requests (f.attempt c settings).declarations) : c.Marshallable type := by
  obtain ⟨k, _, declared, _⟩ := f.attempt_declarations c settings
  obtain ⟨p, _, rfl, chosen, included⟩ := (mem_requests_iff declared).1 asked
  have layout := (Catalog.strategy_eq_structIn chosen).2.resolve_left (by simp [included])
  exact Catalog.marshallable_of_hasLayout layout included

end Declarations

namespace Generator

variable {c : Catalog} {g : Generator}

/-- The generator works with the catalog and has asked for marshallable types only. -/
structure AsksWithin (c : Catalog) (g : Generator) : Prop where
  catalog : g.catalog = c
  staged : ∀ type ∈ g.staged, c.Marshallable type
  flagged : ∀ type ∈ g.flagged, c.Marshallable type

namespace AsksWithin

theorem start (c : Catalog) (settings : Settings) : AsksWithin c { catalog := c, settings } := by
  refine ⟨rfl, ?_, ?_⟩
  · intro type impossible
    exact absurd impossible (NameSet.not_mem_empty type)
  · intro type impossible
    exact absurd impossible (NameSet.not_mem_empty type)

theorem commit (h : AsksWithin c g) : AsksWithin c g.commit.1 := by
  refine ⟨by rw [commit_generator, h.catalog], ?_, ?_⟩
  · rw [commit_generator]
    intro type impossible
    exact absurd impossible (NameSet.not_mem_empty type)
  · intro type flagged
    rcases mem_commit_flagged.1 flagged with old | ⟨staged, _⟩
    · exact h.flagged type old
    · exact h.staged type staged

theorem discard (h : AsksWithin c g) : AsksWithin c g.discard := by
  refine ⟨h.catalog, ?_, h.flagged⟩
  intro type impossible
  exact absurd impossible (NameSet.not_mem_empty type)

theorem recordAttempt (h : AsksWithin c g) (f : HostFunction) :
    AsksWithin c (g.recordAll f.name (f.attempt g.catalog g.settings).declarations).1 := by
  rw [recordAll_generator]
  refine ⟨h.catalog, ?_, h.flagged⟩
  intro type staged
  rcases NameSet.mem_insertAll.1 staged with new | old
  · rw [h.catalog] at new
    exact HostFunction.marshallable_of_requests new
  · exact h.staged type old

theorem declare (h : AsksWithin c g) (s : Strategy) (function : Signature) (p : Param) :
    AsksWithin c (g.declare s function p).generator := by
  cases outcome : (g.declare s function p).result with
  | error fault =>
    have same : (g.declare s function p).generator = g := declare_generator_of_error outcome
    rw [same]
    exact h
  | ok d =>
    have declared := declare_eq_ok_iff.1 outcome
    rw [h.catalog] at declared
    rw [declare_generator_of_ok outcome, record_generator]
    refine ⟨h.catalog, ?_, h.flagged⟩
    intro type staged
    rcases NameSet.mem_insertAll.1 staged with new | old
    · have demand := request?_eq_some_iff.1 (Option.mem_toList.1 new)
      exact Strategy.marshallable_of_demand declared demand
    · exact h.staged type old

theorem emit (h : AsksWithin c g) (f : HostFunction) : AsksWithin c (g.emit f).generator := by
  cases outcome : (g.emit f).result with
  | error fault =>
    rw [emit_generator_of_error outcome]
    exact (h.recordAttempt f).discard
  | ok text =>
    rw [emit_generator_of_ok outcome]
    exact (h.recordAttempt f).commit

theorem perform (h : AsksWithin c g) {op : Operation} (own : op.LeavesRequests) :
    AsksWithin c (g.perform op).1 := by
  cases op with
  | mark | stage | changeTable => exact own.elim
  | commit => exact h.commit
  | discard => exact h.discard
  | declare s function p => exact h.declare s function p
  | emit f => exact h.emit f
  | generate policy functions =>
    exact emitAll_invariant (fun _ f kept => kept.emit f) policy (sortByName functions) h
  | publish => exact h
  | configure | resetWarning => exact ⟨h.catalog, h.staged, h.flagged⟩

theorem commit_reports_nothing (h : AsksWithin c g) : g.commit.2 = [] := by
  rw [commit_events, List.map_eq_nil_iff, List.filter_eq_nil_iff]
  intro type staged
  have registered := (h.staged type (NameSet.mem_toList.1 staged)).isRegistered
  simp [h.catalog, registered]

theorem emit_events (h : AsksWithin c g) (f : HostFunction) :
    ∀ e ∈ (g.emit f).events, ∀ type, e ≠ .unregistered type := by
  have recorded : ∀ e ∈ (g.recordAll f.name (f.attempt g.catalog g.settings).declarations).2,
      ∀ type, e ≠ .unregistered type := by
    rw [(recordAll_eq ..).1]
    exact fun e member => ne_unregistered_of_due (mem_of_mem_firstOf member)
  cases outcome : (g.emit f).result with
  | error fault =>
    rw [emit_events_of_error outcome]
    exact recorded
  | ok text =>
    rw [emit_events_of_ok outcome, (h.recordAttempt f).commit_reports_nothing]
    intro e member
    rcases List.mem_append.1 member with member | member
    · exact recorded e member
    · rw [List.mem_singleton.1 member]
      exact fun type impossible => nomatch impossible

theorem perform_events (h : AsksWithin c g) {op : Operation} (own : op.LeavesRequests) :
    ∀ e ∈ (g.perform op).2, ∀ type, e ≠ .unregistered type := by
  cases op with
  | mark | stage | changeTable => exact own.elim
  | commit =>
    have nothing : (g.perform .commit).2 = [] := h.commit_reports_nothing
    simp [nothing]
  | declare s function p =>
    cases outcome : (g.declare s function p).result with
    | error fault =>
      have nothing : (g.perform (.declare s function p)).2 = [] := declare_events_of_error outcome
      simp [nothing]
    | ok d =>
      have reported : (g.perform (.declare s function p)).2 = _ := declare_events_of_ok outcome
      rw [reported]
      exact fun e member => ne_unregistered_of_due (mem_of_mem_firstOf member)
  | emit f => exact h.emit_events f
  | generate policy functions =>
    exact emitAll_events (fun _ f kept => ⟨kept.emit f, kept.emit_events f⟩)
      (fun fault type impossible => nomatch impossible) policy (sortByName functions) h
  | discard | publish | configure | resetWarning =>
    exact fun e impossible => absurd impossible List.not_mem_nil

theorem run (h : AsksWithin c g) {ops : List Operation} (own : ∀ op ∈ ops, op.LeavesRequests) :
    AsksWithin c (g.run ops).1 ∧ ∀ e ∈ (g.run ops).2, ∀ type, e ≠ .unregistered type := by
  induction ops generalizing g with
  | nil => exact ⟨h, fun e impossible => absurd impossible List.not_mem_nil⟩
  | cons op ops ih =>
    have first := own op (List.mem_cons_self ..)
    obtain ⟨kept, others⟩ := ih (h.perform first) fun other member =>
      own other (List.mem_cons_of_mem op member)
    refine ⟨kept, ?_⟩
    intro e member
    exact (List.mem_append.1 member).elim (h.perform_events first e) (others e)

end AsksWithin

/-- What can be staged and flagged, after any operations of one table that ask for nothing
themselves, where nothing was done before them. -/
theorem run_asks_within (catalog : Catalog) (settings : Settings) (ops : List Operation)
    (own : ∀ op ∈ ops, op.LeavesRequests) :
    let r := run { catalog, settings } ops
    r.1.catalog = catalog ∧
    (∀ type, type ∈ r.1.staged ∨ type ∈ r.1.flagged →
      type ∈ catalog.names ∧
      (catalog.category? type = some .struct ∨ catalog.category? type = some .union) ∧
      catalog.isExcluded type = false) ∧
    r.1.commit.2 = [] ∧
    ∀ e ∈ r.2, ∀ type, e ≠ .unregistered type := by
  intro r
  obtain ⟨asks, events⟩ := (AsksWithin.start catalog settings).run own
  refine ⟨asks.catalog, ?_, asks.commit_reports_nothing, events⟩
  intro type asked
  have marshallable : catalog.Marshallable type := asked.elim (asks.staged type) (asks.flagged type)
  exact ⟨marshallable.registered, marshallable.aggregate, marshallable.included⟩

end Generator

def requester : Catalog :=
  { types := [⟨"VkDevice", .handle⟩, ⟨"VkMapInfo", .struct⟩, ⟨"VkSubmitInfo", .union⟩,
      ⟨"VkAllocationCallbacks", .struct⟩]
    excluded := ["VkAllocationCallbacks"] }

def pointerTo (type : String) : Param :=
  { name := "p", type, isPointer := true, guestValue := "ARG1", hostValue := "p" }

/-- Structs are declared where they cannot be, for an excluded type, in a wrapper that fails after
it has staged a type, and outside any wrapper. -/
def requestsOfAllKinds : List Operation :=
  [.declare .structIn { name := "vkUse" } (pointerTo "VkDevice"),
    .declare .structIn { name := "vkUse" } (pointerTo "VkUnknown"),
    .declare .structIn { name := "vkUse" } (pointerTo "VkAllocationCallbacks"),
    .emit copiesInfo, .emit failsLate, .configure { placeholder := "out" },
    .declare .structIn { name := "vkUse" } (pointerTo "VkSubmitInfo")]

theorem run_asks_within_requestsOfAllKinds :
    (∀ op ∈ requestsOfAllKinds, op.LeavesRequests) ∧
    let r := Generator.run { catalog := requester } requestsOfAllKinds
    (r.1.staged.toList = ["VkSubmitInfo"] ∧ r.1.flagged.toList = ["VkMapInfo"]) ∧
    (∀ type, type ∈ r.1.staged ∨ type ∈ r.1.flagged →
      type ∈ requester.names ∧
      (requester.category? type = some .struct ∨ requester.category? type = some .union) ∧
      requester.isExcluded type = false) ∧
    r.1.commit.2 = [] := by
  have own : ∀ op ∈ requestsOfAllKinds, op.LeavesRequests := by
    simp [requestsOfAllKinds, Operation.LeavesRequests]
  obtain ⟨_, asked, reported, _⟩ := Generator.run_asks_within requester {} requestsOfAllKinds own
  exact ⟨own, ⟨by decide, by decide⟩, asked, reported⟩

end HostCall
