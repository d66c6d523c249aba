import HostCall.Generator
import HostCall.Proofs.Declaration
import Mathlib.Data.List.Forall2

/-!
The emission of one function. Its outcome and its text come from an attempt that sees the catalog,
the settings and the function only; what it leaves behind in the generator is said once here, field
by field. A complete wrapper flags the registered types that were staged, any other one flags
nothing, and neither leaves anything staged.
-/
namespace HostCall

/-- The type whose marshal-in routine a declaration asks for. -/
def Declaration.request? (d : Declaration) : Option String :=
  match d.demand with
  | .marshalIn type => some type
  | .nothing | .nullFor _ => none

def Declaration.passesNull (d : Declaration) : Bool :=
  match d.demand with
  | .nullFor _ => true
  | .nothing | .marshalIn _ => false

/-- The types whose routines declarations ask for, in order and with repetitions. -/
def requests (ds : List Declaration) : List String := ds.filterMap (·.request?)

theorem request?_eq_some_iff {d : Declaration} {type : String} :
    d.request? = some type ↔ d.demand = .marshalIn type := by
  unfold Declaration.request?
  cases d.demand <;> simp

def Attempt.fault? (a : Attempt) : Option Unsupported :=
  match a.result with
  | .error fault => some fault
  | .ok _ => none

namespace HostFunction

variable {f : HostFunction} {c : Catalog} {settings : Settings}

/-- The parameters with the strategies that the catalog chooses for them, before any is renamed. -/
def chosen (f : HostFunction) (c : Catalog) : List (Param × Strategy) :=
  f.params.map fun p => (p, c.strategy f.name p)

def refusal? (f : HostFunction) (c : Catalog) (settings : Settings) : Option Unsupported :=
  f.signatureFault? settings <|> f.localFault? settings [] (f.chosen c)

theorem zip_strategies (f : HostFunction) (c : Catalog) :
    f.params.zip (f.params.map (c.strategy f.name)) = f.chosen c := by
  unfold chosen
  induction f.params with
  | nil => rfl
  | cons p ps ih => simp only [List.map_cons, List.zip_cons_cons, ih]

theorem attempt_of_refusal {fault : Unsupported} (h : f.refusal? c settings = some fault) :
    f.attempt c settings = { declarations := [], result := .error fault } := by
  unfold refusal? at h
  simp only [attempt, zip_strategies, h]

theorem attempt_of_obstacle {ds : List Declaration} {fault : Unsupported}
    (admitted : f.refusal? c settings = none)
    (h : f.declareAll c settings (f.chosen c) = (ds, some fault)) :
    f.attempt c settings = { declarations := ds, result := .error fault } := by
  unfold refusal? at admitted
  simp only [attempt, zip_strategies, admitted, h]

theorem attempt_of_declared {ds : List Declaration} (admitted : f.refusal? c settings = none)
    (h : f.declareAll c settings (f.chosen c) = (ds, none)) :
    f.attempt c settings =
      { declarations := ds
        result := .ok (f.wrapperText settings (f.params.map (c.strategy f.name)) ds) } := by
  unfold refusal? at admitted
  simp only [attempt, zip_strategies, admitted, h]

/-- Declaring finds no fault exactly when every parameter is declared. -/
theorem declareAll_complete {rest : List (Param × Strategy)} {ds : List Declaration}
    (h : f.declareAll c settings rest = (ds, none)) :
    List.Forall₂ (fun x d => x.2.declare c settings f.name x.1 = .ok d) rest ds := by
  induction rest generalizing ds with
  | nil =>
    cases h
    exact .nil
  | cons x rest ih =>
    obtain ⟨p, s⟩ := x
    unfold declareAll at h
    split at h
    · cases h
    · rename_i d declared
      obtain ⟨rfl, complete⟩ := Prod.mk.inj h
      exact .cons declared (ih (Prod.ext rfl complete))

/-- An attempt is refused, meets an obstacle, or declares everything. -/
theorem attempt_cases (f : HostFunction) (c : Catalog) (settings : Settings) :
    (∃ fault, f.refusal? c settings = some fault ∧
      f.attempt c settings = { declarations := [], result := .error fault }) ∨
    (∃ ds fault, f.refusal? c settings = none ∧
      f.declareAll c settings (f.chosen c) = (ds, some fault) ∧
      f.attempt c settings = { declarations := ds, result := .error fault }) ∨
    ∃ ds, f.refusal? c settings = none ∧ f.declareAll c settings (f.chosen c) = (ds, none) ∧
      f.attempt c settings =
        { declarations := ds
          result := .ok (f.wrapperText settings (f.params.map (c.strategy f.name)) ds) } := by
  cases refused : f.refusal? c settings with
  | some fault => exact .inl ⟨fault, rfl, attempt_of_refusal refused⟩
  | none =>
    cases outcome : f.declareAll c settings (f.chosen c) with
    | mk ds stopped =>
      cases stopped with
      | some fault => exact .inr (.inl ⟨ds, fault, rfl, rfl, attempt_of_obstacle refused outcome⟩)
      | none => exact .inr (.inr ⟨ds, rfl, rfl, attempt_of_declared refused outcome⟩)

/-- A text is only produced from a declaration for every parameter. -/
theorem attempt_eq_ok {text : String} (h : (f.attempt c settings).result = .ok text) :
    List.Forall₂ (fun p d => (c.strategy f.name p).declare c settings f.name p = .ok d)
        f.params (f.attempt c settings).declarations ∧
      text = f.wrapperText settings (f.params.map (c.strategy f.name))
        (f.attempt c settings).declarations := by
  rcases f.attempt_cases c settings with
    ⟨fault, _, attempted⟩ | ⟨ds, fault, _, _, attempted⟩ | ⟨ds, _, outcome, attempted⟩
  · rw [attempted] at h
    cases h
  · rw [attempted] at h
    cases h
  · rw [attempted] at h ⊢
    cases h
    exact ⟨List.forall₂_map_left_iff.1 (declareAll_complete outcome), rfl⟩

end HostFunction

namespace Generator

theorem record_generator (g : Generator) (function : String) (d : Declaration) :
    (g.record function d).1 =
      { g with
        staged := g.staged.insertAll d.request?.toList
        warned := g.warned || d.passesNull } := by
  obtain ⟨catalog, settings, staged, flagged, warned⟩ := g
  unfold record Declaration.request? Declaration.passesNull
  cases d.demand with
  | nothing => simp [NameSet.insertAll]
  | marshalIn type => simp [stage, NameSet.insertAll]
  | nullFor type => cases warned <;> simp [NameSet.insertAll]

/-- Recording declarations stages what they ask for and remembers that null was passed. -/
theorem recordAll_generator (g : Generator) (function : String) (ds : List Declaration) :
    (g.recordAll function ds).1 =
      { g with
        staged := g.staged.insertAll (requests ds)
        warned := g.warned || ds.any (·.passesNull) } := by
  induction ds generalizing g with
  | nil => simp [recordAll, requests, NameSet.insertAll]
  | cons d ds ih =>
    simp only [recordAll, ih, record_generator, requests, List.any_cons, Bool.or_assoc]
    cases asked : d.request? with
    | none => simp [NameSet.insertAll, asked]
    | some type => simp [NameSet.insertAll, asked]

theorem commit_generator (g : Generator) :
    g.commit.1 =
      { g with
        staged := ∅
        flagged := g.flagged.insertAll (g.staged.toList.filter g.catalog.isRegistered) } := by
  simp [commit, List.partition_eq_filter_filter]

variable {g : Generator} {f : HostFunction}

theorem mem_commit_flagged {type : String} :
    type ∈ g.commit.1.flagged ↔
      type ∈ g.flagged ∨ type ∈ g.staged ∧ g.catalog.isRegistered type = true := by
  rw [commit_generator, NameSet.mem_insertAll, List.mem_filter, NameSet.mem_toList]
  exact or_comm

theorem emit_result (g : Generator) (f : HostFunction) :
    (g.emit f).result = (f.attempt g.catalog g.settings).result := by
  unfold emit
  cases h : (f.attempt g.catalog g.settings).result <;> simp [h]

theorem emit_function (g : Generator) (f : HostFunction) :
    (g.emit f).function = (f.attempt g.catalog g.settings).function f := by
  unfold emit
  cases h : (f.attempt g.catalog g.settings).result <;> simp [h]

theorem emit_generator_of_error {fault : Unsupported} (h : (g.emit f).result = .error fault) :
    (g.emit f).generator =
      (g.recordAll f.name (f.attempt g.catalog g.settings).declarations).1.discard := by
  rw [emit_result] at h
  simp [emit, h]

theorem emit_generator_of_ok {text : String} (h : (g.emit f).result = .ok text) :
    (g.emit f).generator =
      (g.recordAll f.name (f.attempt g.catalog g.settings).declarations).1.commit.1 := by
  rw [emit_result] at h
  simp [emit, h]

@[simp] theorem emit_catalog (g : Generator) (f : HostFunction) :
    (g.emit f).generator.catalog = g.catalog := by
  cases h : (g.emit f).result with
  | error fault => rw [emit_generator_of_error h, discard, recordAll_generator]
  | ok text => rw [emit_generator_of_ok h, commit_generator, recordAll_generator]

@[simp] theorem emit_settings (g : Generator) (f : HostFunction) :
    (g.emit f).generator.settings = g.settings := by
  cases h : (g.emit f).result with
  | error fault => rw [emit_generator_of_error h, discard, recordAll_generator]
  | ok text => rw [emit_generator_of_ok h, commit_generator, recordAll_generator]

@[simp] theorem emit_staged (g : Generator) (f : HostFunction) :
    (g.emit f).generator.staged = ∅ := by
  cases h : (g.emit f).result with
  | error fault => rw [emit_generator_of_error h, discard]
  | ok text => rw [emit_generator_of_ok h, commit_generator]

theorem emit_flagged_of_error {fault : Unsupported} (h : (g.emit f).result = .error fault) :
    (g.emit f).generator.flagged = g.flagged := by
  rw [emit_generator_of_error h, discard, recordAll_generator]

/-- A complete wrapper flags what was staged before it as well as what it asks for itself. -/
theorem mem_emit_flagged_of_ok {text type : String} (h : (g.emit f).result = .ok text) :
    type ∈ (g.emit f).generator.flagged ↔
      type ∈ g.flagged ∨
        (type ∈ g.staged ∨ type ∈ requests (f.attempt g.catalog g.settings).declarations) ∧
          g.catalog.isRegistered type = true := by
  rw [emit_generator_of_ok h, mem_commit_flagged, recordAll_generator, NameSet.mem_insertAll]
  exact or_congr_right (and_congr_left' or_comm)

end Generator

end HostCall
