import HostCall.Pass
import HostCall.Proofs.Emission
import Mathlib.Data.List.TakeWhile

/-!
A pass over functions. What becomes of one function does not depend on what the pass did before it,
so a pass handles each function as its generator does at the start. The policy only decides how far
the pass gets.
-/
namespace HostCall.Generator

variable {g : Generator} {f : HostFunction} {rest : List HostFunction}

def wraps (g : Generator) (f : HostFunction) : Bool := (g.emit f).result.isOk

/-- What a pass notes of a function that it is done with. -/
def handle (g : Generator) (f : HostFunction) : Handled :=
  match (g.emit f).result with
  | .ok text => .wrapped f.name text
  | .error fault => .leftOut fault

/-- The functions that a pass is done with when it ends. -/
def reached (g : Generator) (policy : Policy) (functions : List HostFunction) : List HostFunction :=
  match policy with
  | .skip => functions
  | .abort => functions.takeWhile g.wraps

/-- The functions that get a wrapper in a pass. -/
def wrapped (g : Generator) (policy : Policy) (functions : List HostFunction) : List HostFunction :=
  (g.reached policy functions).filter g.wraps

theorem emit_result_congr {h : Generator} (catalog : h.catalog = g.catalog)
    (settings : h.settings = g.settings) : (h.emit f).result = (g.emit f).result := by
  rw [emit_result, emit_result, catalog, settings]

section Congruence

variable {h : Generator} (catalog : h.catalog = g.catalog) (settings : h.settings = g.settings)

include catalog settings

theorem wraps_congr : h.wraps = g.wraps := by
  funext other
  unfold wraps
  rw [emit_result_congr catalog settings]

theorem handle_congr : h.handle = g.handle := by
  funext other
  unfold handle
  rw [emit_result_congr catalog settings]

end Congruence

@[simp] theorem wraps_emit (g : Generator) (f : HostFunction) :
    (g.emit f).generator.wraps = g.wraps :=
  wraps_congr (emit_catalog g f) (emit_settings g f)

@[simp] theorem handle_emit (g : Generator) (f : HostFunction) :
    (g.emit f).generator.handle = g.handle :=
  handle_congr (emit_catalog g f) (emit_settings g f)

theorem wraps_of_ok {text : String} (h : (g.emit f).result = .ok text) : g.wraps f = true := by
  rw [wraps, h]
  rfl

theorem ok_of_wraps {f : HostFunction} (h : g.wraps f = true) :
    ∃ text, (g.emit f).result = .ok text := by
  unfold wraps at h
  cases outcome : (g.emit f).result with
  | ok text => exact ⟨text, rfl⟩
  | error fault =>
    rw [outcome] at h
    cases h

theorem wraps_of_error {fault : Unsupported} (h : (g.emit f).result = .error fault) :
    g.wraps f = false := by
  rw [wraps, h]
  rfl

def fault? (g : Generator) (f : HostFunction) : Option Unsupported :=
  match (g.emit f).result with
  | .ok _ => none
  | .error fault => some fault

theorem fault?_eq_some_iff {fault : Unsupported} :
    g.fault? f = some fault ↔ (g.emit f).result = .error fault := by
  unfold fault?
  cases (g.emit f).result <;> simp

theorem fault?_eq_none_iff : g.fault? f = none ↔ g.wraps f = true := by
  unfold fault? wraps
  cases (g.emit f).result <;> simp [Except.isOk, Except.toBool]

theorem fault?_congr {h : Generator} (catalog : h.catalog = g.catalog)
    (settings : h.settings = g.settings) : h.fault? = g.fault? := by
  funext other
  unfold fault?
  rw [emit_result_congr catalog settings]

@[simp] theorem fault?_emit (g : Generator) (f : HostFunction) :
    (g.emit f).generator.fault? = g.fault? :=
  fault?_congr (emit_catalog g f) (emit_settings g f)

theorem emitAll_nil (g : Generator) (policy : Policy) :
    g.emitAll policy [] = { generator := g, handled := [], stopped := none, events := [] } := rfl

theorem emitAll_of_ok {policy : Policy} {text : String} (h : (g.emit f).result = .ok text) :
    g.emitAll policy (f :: rest) =
      { (g.emit f).generator.emitAll policy rest with
        handled := .wrapped f.name text :: ((g.emit f).generator.emitAll policy rest).handled
        events := (g.emit f).events ++ ((g.emit f).generator.emitAll policy rest).events } := by
  rw [emitAll.eq_def]
  simp only [h]

theorem emitAll_skip_of_error {fault : Unsupported} (h : (g.emit f).result = .error fault) :
    g.emitAll .skip (f :: rest) =
      { (g.emit f).generator.emitAll .skip rest with
        handled := .leftOut fault :: ((g.emit f).generator.emitAll .skip rest).handled
        events := (g.emit f).events ++
          .skipping fault :: ((g.emit f).generator.emitAll .skip rest).events } := by
  rw [emitAll.eq_def]
  simp only [h]

theorem emitAll_abort_of_error {fault : Unsupported} (h : (g.emit f).result = .error fault) :
    g.emitAll .abort (f :: rest) =
      { generator := (g.emit f).generator, handled := [], stopped := some fault
        events := (g.emit f).events } := by
  rw [emitAll.eq_def]
  simp only [h]

/-- What every emission preserves is preserved by a pass, wherever it ends. -/
theorem emitAll_invariant {holds : Generator → Prop}
    (step : ∀ g f, holds g → holds (g.emit f).generator) (policy : Policy)
    (functions : List HostFunction) (start : holds g) :
    holds (g.emitAll policy functions).generator := by
  induction functions generalizing g with
  | nil => exact start
  | cons f rest ih =>
    have first := step g f start
    cases outcome : (g.emit f).result with
    | ok text =>
      rw [emitAll_of_ok outcome]
      exact ih first
    | error fault =>
      cases policy with
      | skip =>
        rw [emitAll_skip_of_error outcome]
        exact ih first
      | abort =>
        rw [emitAll_abort_of_error outcome]
        exact first

theorem emitAll_handled (g : Generator) (policy : Policy) (functions : List HostFunction) :
    (g.emitAll policy functions).handled = (g.reached policy functions).map g.handle := by
  induction functions generalizing g with
  | nil => cases policy <;> rfl
  | cons f rest ih =>
    have tail := ih (g.emit f).generator
    cases h : (g.emit f).result with
    | ok text =>
      rw [emitAll_of_ok h]
      have first : g.handle f = .wrapped f.name text := by simp only [handle, h]
      cases policy with
      | skip => simpa [reached, first] using tail
      | abort => simpa [reached, first, wraps_of_ok h] using tail
    | error fault =>
      have first : g.handle f = .leftOut fault := by simp only [handle, h]
      cases policy with
      | skip =>
        rw [emitAll_skip_of_error h]
        simpa [reached, first] using tail
      | abort =>
        rw [emitAll_abort_of_error h]
        simp [reached, wraps_of_error h]

/-- Only a pass that may end early does, at the first function without a wrapper. -/
theorem emitAll_stopped (g : Generator) (policy : Policy) (functions : List HostFunction) :
    (g.emitAll policy functions).stopped =
      match policy with
      | .skip => none
      | .abort => functions.findSome? g.fault? := by
  induction functions generalizing g with
  | nil => cases policy <;> rfl
  | cons f rest ih =>
    have tail := ih (g.emit f).generator
    rw [fault?_emit] at tail
    cases h : (g.emit f).result with
    | ok text =>
      have first : g.fault? f = none := fault?_eq_none_iff.2 (wraps_of_ok h)
      rw [emitAll_of_ok h]
      cases policy with
      | skip => exact tail
      | abort => simpa [List.findSome?_cons, first] using tail
    | error fault =>
      have first : g.fault? f = some fault := fault?_eq_some_iff.2 h
      cases policy with
      | skip =>
        rw [emitAll_skip_of_error h]
        exact tail
      | abort =>
        rw [emitAll_abort_of_error h]
        simp [first]

theorem wrapped_nil (g : Generator) (policy : Policy) : g.wrapped policy [] = [] := by
  cases policy <;> rfl

theorem wrapped_cons_of_ok {policy : Policy} (h : g.wraps f = true) :
    g.wrapped policy (f :: rest) = f :: g.wrapped policy rest := by
  cases policy <;> simp [wrapped, reached, h]

theorem wrapped_skip_cons_of_error (h : g.wraps f = false) :
    g.wrapped .skip (f :: rest) = g.wrapped .skip rest := by
  simp [wrapped, reached, h]

theorem wrapped_abort_cons_of_error (h : g.wraps f = false) :
    g.wrapped .abort (f :: rest) = [] := by
  simp [wrapped, reached, h]

@[simp] theorem wrapped_emit (g : Generator) (f : HostFunction) :
    (g.emit f).generator.wrapped = g.wrapped := by
  funext policy functions
  unfold wrapped reached
  rw [wraps_emit]

/-- The first fault in a list of functions, with the function that it is about. -/
theorem first_failing {functions : List HostFunction} {fault : Unsupported}
    (h : functions.findSome? g.fault? = some fault) :
    ∃ before failing rest, functions = before ++ failing :: rest ∧
      (∀ f ∈ before, g.wraps f = true) ∧ (g.emit failing).result = .error fault := by
  obtain ⟨before, failing, rest, split, failed, passed⟩ := List.findSome?_eq_some_iff.1 h
  exact ⟨before, failing, rest, split, fun f member => fault?_eq_none_iff.1 (passed f member),
    fault?_eq_some_iff.1 failed⟩

/-- The function that ends a pass comes right after those that got a wrapper in it. -/
theorem stopped_at_failing {policy : Policy} {functions : List HostFunction} {fault : Unsupported}
    (h : (g.emitAll policy functions).stopped = some fault) :
    policy = .abort ∧ ∃ failing rest,
      functions = g.wrapped policy functions ++ failing :: rest ∧
        (g.emit failing).result = .error fault := by
  rw [emitAll_stopped] at h
  cases policy with
  | skip => cases h
  | abort =>
    obtain ⟨before, failing, rest, rfl, all, failed⟩ := first_failing h
    have reached_before : g.wrapped .abort (before ++ failing :: rest) = before := by
      unfold wrapped reached
      rw [List.takeWhile_append_of_pos all, List.takeWhile_cons_of_neg (by
        rw [wraps_of_error failed]
        decide), List.append_nil]
      exact List.filter_eq_self.2 all
    exact ⟨rfl, failing, rest, by rw [reached_before], failed⟩

/-- A pass that does not stop is done with all functions, and where it could have stopped each of
them got a wrapper. -/
theorem reached_of_not_stopped {policy : Policy} {functions : List HostFunction}
    (h : (g.emitAll policy functions).stopped = none) :
    g.reached policy functions = functions ∧
      (policy = .abort → ∀ f ∈ functions, g.wraps f = true) := by
  rw [emitAll_stopped] at h
  cases policy with
  | skip => exact ⟨rfl, nofun⟩
  | abort =>
    have all : ∀ f ∈ functions, g.wraps f = true := fun f member =>
      fault?_eq_none_iff.1 (List.findSome?_eq_none_iff.1 h f member)
    exact ⟨List.takeWhile_eq_self_iff.2 all, fun _ => all⟩

theorem generate_result (g : Generator) (policy : Policy) (functions : List HostFunction) :
    (g.generate policy functions).result =
      match (g.emitAll policy (sortByName functions)).stopped with
      | some fault => .error fault
      | none => .ok (.ofHandled ((g.reached policy (sortByName functions)).map g.handle)) := by
  rw [← emitAll_handled]
  rfl

/-- What comes of a pass depends on its generator's catalog and settings only. -/
theorem generate_result_congr {h : Generator} (catalog : h.catalog = g.catalog)
    (settings : h.settings = g.settings) (policy : Policy) (functions : List HostFunction) :
    (h.generate policy functions).result = (g.generate policy functions).result := by
  have reached : h.reached policy (sortByName functions) =
      g.reached policy (sortByName functions) := by
    unfold Generator.reached
    rw [wraps_congr catalog settings]
  rw [generate_result, generate_result, emitAll_stopped, emitAll_stopped, reached,
    fault?_congr catalog settings, handle_congr catalog settings]

theorem emitted_ofHandled (g : Generator) (functions : List HostFunction) :
    (Thunks.ofHandled (functions.map g.handle)).emitted =
      (functions.filter g.wraps).map (·.name) := by
  simp only [Thunks.ofHandled]
  induction functions with
  | nil => rfl
  | cons f rest ih =>
    rw [List.map_cons, List.filterMap_cons, ih, List.filter_cons]
    cases h : (g.emit f).result with
    | ok text => simp [handle, h, Handled.name?, wraps_of_ok h]
    | error fault => simp [handle, h, Handled.name?, wraps_of_error h]

end HostCall.Generator
