import HostCall.Proofs.DeclaredNames
import HostCall.Proofs.Lookup

/-!
What is known of a function that has a wrapper. Everything that was checked of it stands in one
structure, so what follows from the checks does not go through them again. Behind a double pointer
there is always a mapped range, and there is at most one, as all of them would get the same local.
-/
namespace HostCall

/-- The local of a parameter: a double pointer goes by the placeholder's name. -/
def Param.hostLocal (settings : Settings) (p : Param) : String :=
  if p.isDoublePointer then settings.placeholder else p.name

namespace HostFunction

structure Accepted (f : HostFunction) (c : Catalog) (settings : Settings) : Prop where
  name : IsIdentifier f.name
  status : f.callStatus = .checked → f.returnType ≠ none
  paramNames : ∀ p ∈ f.params, IsIdentifier p.name
  arity : ∀ p ∈ f.params, p.isDoublePointer = true → p.isPointer = true
  distinct : (f.params.map (f.localOf c settings)).Nodup
  apart : ∀ p ∈ f.params, f.statusLocal? settings ≠ some (f.localOf c settings p)
  mapped : ∀ p ∈ f.params, p.isDoublePointer = true →
    ∃ range, c.range? f.name p.name = some range

variable {f : HostFunction} {c : Catalog} {settings : Settings} {p : Param}

theorem strategy_of_doublePointer (double : p.isDoublePointer = true)
    (unstated : c.range? f.name p.name = none) : c.strategy f.name p = .direct := by
  unfold Catalog.strategy
  simp [unstated, Param.isSinglePointer, double]

theorem admitted_of_ok {text : String} (h : (f.attempt c settings).result = .ok text) :
    f.refusal? c settings = none := by
  rcases f.attempt_cases c settings with
    ⟨fault, _, attempted⟩ | ⟨ds, fault, _, _, attempted⟩ | ⟨ds, admitted, _, _⟩
  · rw [attempted] at h
    cases h
  · rw [attempted] at h
    cases h
  · exact admitted

theorem accepted_of_ok {text : String} (h : (f.attempt c settings).result = .ok text) :
    f.Accepted c settings := by
  have met : ∀ r ∈ f.checklist c settings, r.met :=
    (f.attempt_verdict c settings).all_met (by simp [Attempt.fault?, h])
  obtain ⟨distinct, apart⟩ := localOf_of_admitted (localFault?_of_refusal (admitted_of_ok h))
  simp only [checklist, List.forall_mem_append, List.forall_mem_flatMap] at met
  obtain ⟨⟨⟨signature, params⟩, _⟩, strategies⟩ := met
  have checked : ¬ (f.returnType = none ∧ f.callStatus = .checked) :=
    signature _ (List.mem_cons_of_mem _ (List.mem_cons_self ..))
  refine ⟨signature _ (List.mem_cons_self ..), fun status none => checked ⟨none, status⟩, ?_, ?_,
    distinct, fun p member => (apart p member).2, ?_⟩
  · intro p member
    exact params p member _ (List.mem_cons_self ..)
  · intro p member
    exact params p member _ (List.mem_cons_of_mem _ (List.mem_cons_self ..))
  · intro p member double
    cases stated : c.range? f.name p.name with
    | some range => exact ⟨range, rfl⟩
    | none =>
      have single : c.strategy f.name p = .direct → p.isDoublePointer = false :=
        strategies p member _ (List.mem_cons_of_mem _ (List.mem_cons_self ..))
      rw [single (strategy_of_doublePointer double stated)] at double
      cases double

namespace Accepted

variable (accepted : f.Accepted c settings)

include accepted

theorem localOf_eq (member : p ∈ f.params) : f.localOf c settings p = p.hostLocal settings := by
  unfold localOf Param.hostLocal
  cases double : p.isDoublePointer with
  | true =>
    obtain ⟨range, stated⟩ := accepted.mapped p member double
    simp [Catalog.strategy_eq_mapMemory_iff.2 stated]
  | false => cases c.strategy f.name p <;> rfl

theorem locals_eq : f.params.map (f.localOf c settings) = f.params.map (·.hostLocal settings) :=
  List.map_congr_left fun _ member => accepted.localOf_eq member

/-- Only double pointers are received under another name. -/
theorem received_eq (member : p ∈ f.params) :
    f.received c settings p =
      if p.isDoublePointer then
        { p with name := settings.placeholder, hostValue := "&" ++ settings.placeholder }
      else p := by
  unfold received
  cases double : p.isDoublePointer with
  | false => rw [Strategy.received_of_single settings _ double, if_neg Bool.false_ne_true]
  | true =>
    obtain ⟨range, stated⟩ := accepted.mapped p member double
    rw [Catalog.strategy_eq_mapMemory_iff.2 stated, Strategy.received, double]

theorem received_name (member : p ∈ f.params) :
    (f.received c settings p).name = p.hostLocal settings := by
  rw [accepted.received_eq member, Param.hostLocal]
  split <;> rfl

/-- All double pointers have one local, so there are no two of them. -/
theorem atMostOne_doublePointer : (f.params.filter (·.isDoublePointer)).length ≤ 1 := by
  have distinct := accepted.distinct
  rw [accepted.locals_eq] at distinct
  have same : (f.params.filter (·.isDoublePointer)).map (·.hostLocal settings) =
      List.replicate (f.params.filter (·.isDoublePointer)).length settings.placeholder := by
    refine List.map_eq_replicate_iff.2 fun p member => ?_
    simp [Param.hostLocal, (List.mem_filter.1 member).2]
  have placeholders :
      ((f.params.filter (·.isDoublePointer)).map (·.hostLocal settings)).Nodup :=
    distinct.sublist (List.filter_sublist.map _)
  rw [same] at placeholders
  exact List.nodup_replicate.1 placeholders

end Accepted

end HostFunction

end HostCall
