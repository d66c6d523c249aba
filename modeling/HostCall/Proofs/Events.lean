import HostCall.Proofs.Assembly
import HostCall.Proofs.Pass

/-!
What a generator reports. Declarations report at most that null is passed, and only the first time
that it is; a commit reports the staged types that are not registered.
-/
namespace HostCall

/-- The warning that is due for a declaration, if null is passed in it. -/
def Declaration.warning? (function : String) (d : Declaration) : Option Event :=
  match d.demand with
  | .nullFor type => some (.nullPassed type function d.param.name)
  | .nothing | .marshalIn _ => none

/-- The warnings that are due for declarations, in order. -/
def warnings (function : String) (ds : List Declaration) : List Event :=
  ds.filterMap (·.warning? function)

theorem warnings_cons (function : String) (d : Declaration) (ds : List Declaration) :
    warnings function (d :: ds) = (d.warning? function).toList ++ warnings function ds := by
  unfold warnings
  cases h : d.warning? function <;> simp [h]

/-- What is reported of the warnings that are due: the first, unless there was one before. -/
def firstOf (warned : Bool) (due : List Event) : List Event :=
  if warned then [] else due.head?.toList

theorem firstOf_append (warned : Bool) (xs ys : List Event) :
    firstOf warned (xs ++ ys) = firstOf warned xs ++ firstOf (warned || !xs.isEmpty) ys := by
  cases warned with
  | true => rfl
  | false => cases xs <;> rfl

theorem mem_of_mem_firstOf {warned : Bool} {due : List Event} {e : Event}
    (h : e ∈ firstOf warned due) : e ∈ due := by
  unfold firstOf at h
  split at h
  · exact absurd h List.not_mem_nil
  · exact List.mem_of_mem_head? (Option.mem_toList.1 h)

/-- Declarations have nothing to say of types that are not registered. -/
theorem ne_unregistered_of_due {function : String} {ds : List Declaration} {e : Event}
    (h : e ∈ warnings function ds) (type : String) : e ≠ .unregistered type := by
  obtain ⟨d, _, due⟩ := List.mem_filterMap.1 h
  unfold Declaration.warning? at due
  split at due
  · cases due
    exact fun impossible => nomatch impossible
  · cases due
  · cases due

namespace Generator

variable {g : Generator} {f : HostFunction}

theorem record_eq (g : Generator) (function : String) (d : Declaration) :
    (g.record function d).2 = firstOf g.warned (d.warning? function).toList ∧
      (g.record function d).1.warned = (g.warned || (d.warning? function).isSome) := by
  unfold record Declaration.warning?
  cases d.demand with
  | nothing => cases h : g.warned <;> simp [firstOf]
  | marshalIn type => cases h : g.warned <;> simp [firstOf, stage, h]
  | nullFor type => cases h : g.warned <;> simp [firstOf, h]

theorem recordAll_eq (g : Generator) (function : String) (ds : List Declaration) :
    (g.recordAll function ds).2 = firstOf g.warned (warnings function ds) ∧
      (g.recordAll function ds).1.warned =
        (g.warned || !(warnings function ds).isEmpty) := by
  induction ds generalizing g with
  | nil => cases h : g.warned <;> simp [recordAll, warnings, firstOf, h]
  | cons d ds ih =>
    obtain ⟨reported, warned⟩ := g.record_eq function d
    obtain ⟨others, last⟩ := ih (g.record function d).1
    rw [warnings_cons, firstOf_append]
    simp only [recordAll, reported, others, last, warned]
    cases d.warning? function <;> simp

theorem declare_events_of_error {s : Strategy} {function : Signature} {p : Param}
    {fault : Unsupported} (h : (g.declare s function p).result = .error fault) :
    (g.declare s function p).events = [] := by
  unfold declare at h ⊢
  cases outcome : s.declare g.catalog g.settings function.name p with
  | error obstacle => rfl
  | ok d =>
    rw [outcome] at h
    cases h

theorem declare_events_of_ok {s : Strategy} {function : Signature} {p : Param} {d : Declaration}
    (h : (g.declare s function p).result = .ok d) :
    (g.declare s function p).events =
      firstOf g.warned (warnings function.name [d]) := by
  rw [declare_eq_ok_iff] at h
  simp only [declare, h, (g.record_eq function.name d).1, warnings_cons]
  simp [warnings]

theorem commit_events (g : Generator) :
    g.commit.2 = (g.staged.toList.filter (!g.catalog.isRegistered ·)).map .unregistered := by
  simp only [commit, List.partition_eq_filter_filter]
  rfl

theorem emit_events_of_error {fault : Unsupported} (h : (g.emit f).result = .error fault) :
    (g.emit f).events =
      (g.recordAll f.name (f.attempt g.catalog g.settings).declarations).2 := by
  rw [emit_result] at h
  simp [emit, h]

theorem emit_events_of_ok {text : String} (h : (g.emit f).result = .ok text) :
    (g.emit f).events =
      (g.recordAll f.name (f.attempt g.catalog g.settings).declarations).2 ++
        .emitted f.name f.params.length ::
          (g.recordAll f.name (f.attempt g.catalog g.settings).declarations).1.commit.2 := by
  rw [emit_result] at h
  simp [emit, h]

/-- What is true of every event of an emission, and of every skipping, is true of a pass. -/
theorem emitAll_events {holds : Generator → Prop} {fits : Event → Prop}
    (step : ∀ g f, holds g → holds (g.emit f).generator ∧ ∀ e ∈ (g.emit f).events, fits e)
    (skipping : ∀ fault, fits (.skipping fault)) (policy : Policy)
    (functions : List HostFunction) (start : holds g) :
    ∀ e ∈ (g.emitAll policy functions).events, fits e := by
  induction functions generalizing g with
  | nil =>
    rw [emitAll_nil]
    simp
  | cons f rest ih =>
    obtain ⟨kept, first⟩ := step g f start
    have others := ih kept
    cases outcome : (g.emit f).result with
    | ok text =>
      rw [emitAll_of_ok outcome]
      intro e member
      exact (List.mem_append.1 member).elim (first e) (others e)
    | error fault =>
      cases policy with
      | abort =>
        rw [emitAll_abort_of_error outcome]
        exact first
      | skip =>
        rw [emitAll_skip_of_error outcome]
        intro e member
        rcases List.mem_append.1 member with member | member
        · exact first e member
        · rcases List.mem_cons.1 member with rfl | member
          · exact skipping fault
          · exact others e member

end Generator

end HostCall
