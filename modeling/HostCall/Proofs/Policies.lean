import HostCall.Proofs.Growth
import HostCall.Proofs.Isolation

/-!
The two policies side by side. Until a function fails they do the same; then one pass ends with the
fault that the other goes on to list first, so the pass that goes on flags at least as much.
-/
namespace HostCall.Generator

variable {g : Generator} {functions : List HostFunction}

/-- Without a failure the policy does not matter. -/
theorem emitAll_abort_eq_skip (all : ∀ f ∈ functions, g.wraps f = true) :
    g.emitAll .abort functions = g.emitAll .skip functions := by
  induction functions generalizing g with
  | nil => rfl
  | cons f rest ih =>
    obtain ⟨text, outcome⟩ := ok_of_wraps (all f (List.mem_cons_self ..))
    have tail := ih (g := (g.emit f).generator) (by
      rw [wraps_emit]
      exact fun other member => all other (List.mem_cons_of_mem f member))
    rw [emitAll_of_ok outcome, emitAll_of_ok outcome, tail]

/-- Up to the first failure both passes are in the same state; from there one only goes on. -/
theorem emitAll_abort_grows_skip (g : Generator) (functions : List HostFunction) :
    Grows (g.emitAll .abort functions).generator (g.emitAll .skip functions).generator := by
  induction functions generalizing g with
  | nil => exact .refl g
  | cons f rest ih =>
    cases outcome : (g.emit f).result with
    | ok text =>
      rw [emitAll_of_ok outcome, emitAll_of_ok outcome]
      exact ih (g.emit f).generator
    | error fault =>
      rw [emitAll_abort_of_error outcome, emitAll_skip_of_error outcome]
      exact emitAll_grows (g.emit f).generator .skip rest

theorem generate_skip_result (g : Generator) (functions : List HostFunction) :
    (g.generate .skip functions).result =
      .ok (.ofHandled ((sortByName functions).map g.handle)) := by
  rw [generate_result, emitAll_stopped]
  rfl

/-- A pass that may end early comes to its end exactly when the other one leaves out nothing, and
otherwise fails with what the other one lists first. -/
theorem generate_policies_agree (g : Generator) (functions : List HostFunction) :
    ∃ thunks, (g.generate .skip functions).result = .ok thunks ∧
      match thunks.skipped with
      | [] =>
        (g.generate .abort functions).result = .ok thunks ∧
          (g.generate .abort functions).generator.flagged =
            (g.generate .skip functions).generator.flagged
      | fault :: _ =>
        (g.generate .abort functions).result = .error fault ∧
          (∃ before failing rest, SortedByName functions (before ++ failing :: rest) ∧
            (∀ f ∈ before, g.wraps f = true) ∧ (g.emit failing).result = .error fault ∧
            fault.function = failing.name) ∧
          ∀ type ∈ (g.generate .abort functions).generator.flagged,
            type ∈ (g.generate .skip functions).generator.flagged := by
  have first : (Thunks.ofHandled ((sortByName functions).map g.handle)).skipped.head? =
      (sortByName functions).findSome? g.fault? := by
    rw [skipped_ofHandled, List.head?_filterMap]
  refine ⟨_, generate_skip_result g functions, ?_⟩
  cases skipped : (Thunks.ofHandled ((sortByName functions).map g.handle)).skipped with
  | nil =>
    rw [skipped] at first
    have none_fails : (sortByName functions).findSome? g.fault? = none := first.symm
    have all : ∀ f ∈ sortByName functions, g.wraps f = true := fun f member =>
      fault?_eq_none_iff.1 (List.findSome?_eq_none_iff.1 none_fails f member)
    have same : g.generate .abort functions = g.generate .skip functions := by
      unfold generate
      rw [emitAll_abort_eq_skip all]
    rw [same]
    exact ⟨generate_skip_result g functions, rfl⟩
  | cons fault others =>
    rw [skipped] at first
    have fails : (sortByName functions).findSome? g.fault? = some fault := first.symm
    obtain ⟨before, failing, rest, split, passed, failed⟩ := first_failing fails
    refine ⟨?_, ⟨before, failing, rest, ?_, passed, failed, ?_⟩, ?_⟩
    · rw [generate_result, emitAll_stopped]
      simp only [fails]
    · rw [← split]
      exact sortByName_sorted functions
    · exact function_of_fault? (fault?_eq_some_iff.2 failed)
    · exact (emitAll_abort_grows_skip g (sortByName functions)).kept

end HostCall.Generator
