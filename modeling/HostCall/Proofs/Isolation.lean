import HostCall.Proofs.Checklist
import HostCall.Proofs.NameOrder
import HostCall.Proofs.Pass

/-!
Functions do not get in each other's way. A pass that leaves failing functions out gives what comes
of emitting every function alone, in the one stable order by name, whatever its generator has done
before.
-/
namespace HostCall

/-- A function emitted by a generator that has done nothing else. -/
def emitAlone (c : Catalog) (settings : Settings) (f : HostFunction) : Except Unsupported String :=
  (Generator.emit { catalog := c, settings } f).result

theorem HostFunction.function_of_fault {f : HostFunction} {c : Catalog} {settings : Settings}
    {fault : Unsupported} (h : (f.attempt c settings).fault? = some fault) :
    fault.function = f.name := by
  obtain ⟨_, _, reported⟩ := (f.attempt_verdict c settings).first_unmet h
  exact reported.1

namespace Generator

variable {g : Generator}

theorem result_eq_emitAlone (g : Generator) (f : HostFunction) :
    (g.emit f).result = emitAlone g.catalog g.settings f :=
  emit_result_congr rfl rfl

theorem code_ofHandled (g : Generator) (functions : List HostFunction) :
    (Thunks.ofHandled (functions.map g.handle)).code =
      fileHeader ++ String.join (functions.filterMap fun f =>
        (g.emit f).result.toOption.map (· ++ "\n")) := by
  simp only [Thunks.ofHandled, List.map_map]
  congr 1
  induction functions with
  | nil => rfl
  | cons f rest ih =>
    rw [List.map_cons, String.join_cons, ih, List.filterMap_cons]
    cases h : (g.emit f).result with
    | ok text => simp [handle, h, Handled.code, Except.toOption]
    | error fault => simp [handle, h, Handled.code, Except.toOption]

theorem handle_fault? (g : Generator) (f : HostFunction) : (g.handle f).fault? = g.fault? f := by
  unfold handle fault?
  cases (g.emit f).result with
  | ok text => rfl
  | error fault => rfl

theorem skipped_ofHandled (g : Generator) (functions : List HostFunction) :
    (Thunks.ofHandled (functions.map g.handle)).skipped = functions.filterMap g.fault? := by
  simp only [Thunks.ofHandled, List.filterMap_map]
  exact List.filterMap_congr fun f _ => handle_fault? g f

theorem function_of_fault? {f : HostFunction} {fault : Unsupported}
    (h : g.fault? f = some fault) : fault.function = f.name := by
  have failed := fault?_eq_some_iff.1 h
  rw [emit_result] at failed
  exact HostFunction.function_of_fault (by rw [Attempt.fault?, failed])

theorem names_partition (g : Generator) (functions : List HostFunction) :
    ((functions.filter g.wraps).map (·.name) ++
      (functions.filterMap g.fault?).map (·.function)).Perm (functions.map (·.name)) := by
  induction functions with
  | nil => exact .refl _
  | cons f rest ih =>
    cases h : g.fault? f with
    | none =>
      have passed := fault?_eq_none_iff.1 h
      rw [List.filter_cons_of_pos passed, List.filterMap_cons_none h]
      exact ih.cons _
    | some fault =>
      have failed := wraps_of_error (fault?_eq_some_iff.1 h)
      rw [List.filter_cons_of_neg (by simp [failed]), List.filterMap_cons_some h, List.map_cons,
        List.map_cons, function_of_fault? h]
      exact List.perm_middle.trans (ih.cons _)

theorem map_fault? (g : Generator) (f : HostFunction) :
    (g.fault? f).map (fun fault => (fault.function, fault.message)) =
      match emitAlone g.catalog g.settings f with
      | .ok _ => none
      | .error fault => some (f.name, fault.message) := by
  rw [← result_eq_emitAlone]
  cases h : (g.emit f).result with
  | ok text => rw [fault?_eq_none_iff.2 (wraps_of_ok h), Option.map_none]
  | error fault =>
    have failed := fault?_eq_some_iff.2 h
    rw [failed, Option.map_some, function_of_fault? failed]

/-- The pass is its stateless reference: every function alone, in the stable order by name. -/
theorem generate_skip_isolated (g : Generator) (functions : List HostFunction) :
    ∃ sorted thunks,
      (SortedByName functions sorted ∧ ∀ other, SortedByName functions other → other = sorted) ∧
      (g.generate .skip functions).result = .ok thunks ∧
      thunks.code = fileHeader ++ String.join (sorted.filterMap fun f =>
        (emitAlone g.catalog g.settings f).toOption.map (· ++ "\n")) ∧
      thunks.emitted =
        (sorted.filter fun f => (emitAlone g.catalog g.settings f).isOk).map (·.name) ∧
      thunks.skipped.map (fun fault => (fault.function, fault.message)) =
        sorted.filterMap (fun f =>
          match emitAlone g.catalog g.settings f with
          | .ok _ => none
          | .error fault => some (f.name, fault.message)) ∧
      (thunks.emitted ++ thunks.skipped.map (·.function)).Perm (functions.map (·.name)) := by
  have sorted := sortByName_sorted functions
  have result := generate_result g .skip functions
  rw [emitAll_stopped] at result
  refine ⟨_, _, ⟨sorted, fun other h => h.unique sorted⟩, result, ?_, ?_, ?_, ?_⟩
  · rw [code_ofHandled]
    simp only [reached, result_eq_emitAlone]
  · have alone : g.wraps = fun f => (emitAlone g.catalog g.settings f).isOk := by
      funext f
      rw [wraps, result_eq_emitAlone]
    rw [emitted_ofHandled, alone, reached]
  · rw [skipped_ofHandled, List.map_filterMap]
    exact List.filterMap_congr fun f _ => map_fault? g f
  · rw [emitted_ofHandled, skipped_ofHandled]
    exact (names_partition g _).trans (sorted.perm.map _)

end Generator

end HostCall
