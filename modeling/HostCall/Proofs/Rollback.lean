import HostCall.Proofs.Assembly

/-!
What an emission changes, whether it succeeds or fails. A failing one flags nothing and leaves
nothing staged, but parameters that it has renamed stay renamed: those before the one at which the
declarations came to an end.
-/
namespace HostCall

namespace Strategy

variable {c : Catalog} {settings : Settings} {function : String} {p : Param} {d : Declaration}

/-- A parameter as its declaration leaves it. -/
def received (settings : Settings) (p : Param) : Strategy → Param
  | .direct | .structIn => p
  | .mapMemory _ =>
    if p.isDoublePointer then
      { p with name := settings.placeholder, hostValue := "&" ++ settings.placeholder }
    else p

theorem received_of_single (settings : Settings) (s : Strategy) (single : p.isDoublePointer = false) :
    s.received settings p = p := by
  cases s <;> simp [received, single]

theorem declareStruct_param (h : declareStruct c settings function p = .ok d) : d.param = p := by
  rcases (declareStruct_eq_ok h).2 with ⟨_, rfl⟩ | ⟨_, _, rfl⟩
  · rfl
  · rfl

theorem declareRange_param (range : MappedRange) (h : declareRange settings p = .ok d) :
    d.param = received settings p (.mapMemory range) := by
  unfold declareRange at h
  split at h
  · cases h
  · cases h
    rfl

theorem declare_param {s : Strategy} (h : s.declare c settings function p = .ok d) :
    d.param = s.received settings p := by
  cases s with
  | direct => exact (declareDirect_eq_ok h).2.1
  | structIn => exact declareStruct_param h
  | mapMemory range => exact declareRange_param range h

end Strategy

namespace HostFunction

variable {f : HostFunction} {c : Catalog} {settings : Settings}

/-- A parameter as its declaration in a wrapper of the function leaves it. -/
def received (f : HostFunction) (c : Catalog) (settings : Settings) (p : Param) : Param :=
  (c.strategy f.name p).received settings p

theorem params_of_declared {params : List Param} {ds : List Declaration}
    (declared : List.Forall₂
      (fun p d => (c.strategy f.name p).declare c settings f.name p = .ok d) params ds) :
    ds.map (·.param) = params.map (f.received c settings) := by
  induction declared with
  | nil => rfl
  | cons first _ ih =>
    rw [List.map_cons, List.map_cons, ih, Strategy.declare_param first]
    rfl

/-- Declaring stops at the first parameter that cannot be declared, after all those before it. -/
theorem declareAll_obstacle {params : List Param} {ds : List Declaration} {fault : Unsupported}
    (h : f.declareAll c settings (params.map fun p => (p, c.strategy f.name p)) = (ds, some fault)) :
    ∃ before p after obstacle, params = before ++ p :: after ∧
      List.Forall₂ (fun p d => (c.strategy f.name p).declare c settings f.name p = .ok d) before ds ∧
      (c.strategy f.name p).declare c settings f.name p = .error obstacle ∧
      fault = f.unsupported p.name obstacle := by
  induction params generalizing ds with
  | nil => cases h
  | cons p rest ih =>
    rw [List.map_cons] at h
    unfold declareAll at h
    split at h
    · rename_i obstacle failed
      cases h
      exact ⟨[], p, rest, obstacle, rfl, .nil, failed, rfl⟩
    · rename_i d declared
      obtain ⟨rfl, stopped⟩ := Prod.mk.inj h
      obtain ⟨before, q, after, obstacle, rfl, others, failed, same⟩ := ih (Prod.ext rfl stopped)
      exact ⟨p :: before, q, after, obstacle, rfl, .cons declared others, failed, same⟩

/-- How far the declarations of an attempt get. -/
theorem attempt_declarations (f : HostFunction) (c : Catalog) (settings : Settings) :
    ∃ k, (f.attempt c settings).declarations.length = k ∧
      List.Forall₂ (fun p d => (c.strategy f.name p).declare c settings f.name p = .ok d)
        (f.params.take k) (f.attempt c settings).declarations ∧
      match (f.attempt c settings).result with
      | .ok _ => k = f.params.length
      | .error fault =>
        f.refusal? c settings = some fault ∧ k = 0 ∨
          f.refusal? c settings = none ∧ ∃ p obstacle, f.params[k]? = some p ∧
            (c.strategy f.name p).declare c settings f.name p = .error obstacle ∧
            fault = f.unsupported p.name obstacle := by
  rcases f.attempt_cases c settings with
    ⟨fault, refused, attempted⟩ | ⟨ds, fault, admitted, outcome, attempted⟩ |
      ⟨ds, admitted, outcome, attempted⟩
  · rw [attempted]
    exact ⟨0, rfl, .nil, .inl ⟨refused, rfl⟩⟩
  · rw [attempted]
    obtain ⟨before, p, after, obstacle, split, declared, failed, same⟩ :=
      declareAll_obstacle outcome
    have reached : ds.length = before.length := declared.length_eq.symm
    refine ⟨before.length, reached, ?_, .inr ⟨admitted, p, obstacle, ?_, failed, same⟩⟩
    · rw [split, List.take_left]
      exact declared
    · rw [split, List.getElem?_append_right (Nat.le_refl _), Nat.sub_self]
      rfl
  · rw [attempted]
    have declared := List.forall₂_map_left_iff.1 (declareAll_complete outcome)
    refine ⟨f.params.length, declared.length_eq.symm, ?_, rfl⟩
    rw [List.take_length]
    exact declared

end HostFunction

namespace Generator

variable {g : Generator}

theorem declare_error {function : Signature} {s : Strategy} {p : Param} {obstacle : Obstacle}
    (h : s.declare g.catalog g.settings function.name p = .error obstacle) :
    (g.declare s function p).result =
      .error { function := function.name, param := p.name, obstacle } := by
  simp [declare, h]

/-- The parameters before an index are declared in turn, and then the one there cannot be. -/
def StopsAt (g : Generator) (f : HostFunction) (k : Nat) (fault : Unsupported) : Prop :=
  ∃ p ds last, f.params[k]? = some p ∧
    DeclaredInTurn f.toSignature g ((f.chosen g.catalog).take k) ds last ∧
    (last.declare (g.catalog.strategy f.name p) f.toSignature p).result = .error fault

theorem stopsAt_of_declared {f : HostFunction} {k : Nat} {p : Param} {obstacle : Obstacle}
    {ds : List Declaration}
    (declared : List.Forall₂
      (fun p d => (g.catalog.strategy f.name p).declare g.catalog g.settings f.name p = .ok d)
      (f.params.take k) ds)
    (found : f.params[k]? = some p)
    (failed : (g.catalog.strategy f.name p).declare g.catalog g.settings f.name p =
      .error obstacle) : g.StopsAt f k (f.unsupported p.name obstacle) := by
  have inTurn : DeclaredInTurn f.toSignature g ((f.chosen g.catalog).take k) _ _ :=
    declaredInTurn_of_alone (by
      rw [HostFunction.chosen, ← List.map_take]
      exact List.forall₂_map_left_iff.2 declared)
  -- What was recorded on the way changes neither catalog nor settings, so the parameter fails in
  -- its turn as it does alone.
  refine ⟨p, _, _, found, inTurn, ?_⟩
  apply declare_error
  rw [recordAll_generator]
  exact failed

/-- What is different after an emission. Of the parameters those before `k` are as their
declarations left them. -/
theorem emit_effect (g : Generator) (f : HostFunction) :
    (g.emit f).generator.staged = ∅ ∧
    (g.emit f).generator.settings = g.settings ∧
    (g.emit f).generator.catalog = g.catalog ∧
    (g.emit f).function.toSignature = f.toSignature ∧
    ∃ k, (g.emit f).function.params =
        (f.params.take k).map (f.received g.catalog g.settings) ++ f.params.drop k ∧
      match (g.emit f).result with
      | .ok _ => k = f.params.length
      | .error fault =>
        (g.emit f).generator.flagged = g.flagged ∧
          (f.refusal? g.catalog g.settings = some fault ∧ k = 0 ∨
            f.refusal? g.catalog g.settings = none ∧ g.StopsAt f k fault) := by
  refine ⟨emit_staged g f, emit_settings g f, emit_catalog g f, by rw [emit_function]; rfl, ?_⟩
  obtain ⟨k, length, declared, ending⟩ := f.attempt_declarations g.catalog g.settings
  refine ⟨k, ?_, ?_⟩
  · rw [emit_function, ← HostFunction.params_of_declared declared, ← length]
    rfl
  · rw [← emit_result] at ending
    cases outcome : (g.emit f).result with
    | ok text =>
      rw [outcome] at ending
      exact ending
    | error fault =>
      rw [outcome] at ending
      refine ⟨emit_flagged_of_error outcome, ?_⟩
      rcases ending with rejected | ⟨admitted, p, obstacle, found, failed, rfl⟩
      · exact .inl rejected
      · exact .inr ⟨admitted, stopsAt_of_declared declared found failed⟩

end Generator

end HostCall
