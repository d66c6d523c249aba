import HostCall.Proofs.Events
import HostCall.Proofs.Operations
import HostCall.Proofs.Requests
import HostCall.Proofs.Rollback
import Mathlib.Data.List.TakeWhile

/-!
The warning that null is passed for a type. Of all the parameters for which null is passed only the
first one is reported, until the warning is reset, whether or not the wrappers in which they stand
get complete. The generated text does not depend on what was reported.
-/
namespace HostCall

def Event.isWarning : Event → Bool
  | .nullPassed .. => true
  | .emitted .. | .unregistered _ | .skipping _ | .loading _ | .loaded .. | .generating
  | .verifying | .finished .. => false

/-- Null is passed for a parameter that is declared as a struct. -/
def Catalog.passesNull (c : Catalog) (p : Param) : Bool := p.isSinglePointer && c.isExcluded p.type

/-- A parameter for which null was passed, with the name of its function. -/
structure NullCall where
  function : String
  param : Param

def NullCall.warning (call : NullCall) : Event :=
  .nullPassed call.param.type call.function call.param.name

namespace HostFunction

/-- The parameters that are declared in a wrapper, whether or not it gets complete. -/
def reachedParams (f : HostFunction) (c : Catalog) (settings : Settings) : List Param :=
  if (f.refusal? c settings).isSome then []
  else f.params.takeWhile fun p => ((c.strategy f.name p).declare c settings f.name p).isOk

def nullCalls (f : HostFunction) (c : Catalog) (settings : Settings) : List NullCall :=
  ((f.reachedParams c settings).filter fun p =>
    c.strategy f.name p = .structIn ∧ c.passesNull p).map fun param => { function := f.name, param }

end HostFunction

namespace Generator

/-- The functions that are tried in a pass: all of them, or those up to the first that fails. -/
def tried (g : Generator) (policy : Policy) : List HostFunction → List HostFunction
  | [] => []
  | f :: rest => if policy = .abort ∧ g.wraps f = false then [f] else f :: g.tried policy rest

/-- The parameters for which an operation passes null, in order. -/
def nullCalls (g : Generator) : Operation → List NullCall
  | .declare .structIn function param =>
    if g.catalog.passesNull param then [{ function := function.name, param }] else []
  | .emit f => f.nullCalls g.catalog g.settings
  | .generate policy functions =>
    (g.tried policy (sortByName functions)).flatMap (·.nullCalls g.catalog g.settings)
  | _ => []

def nullCallsOf (g : Generator) : List Operation → List NullCall
  | [] => []
  | op :: ops => g.nullCalls op ++ (g.perform op).1.nullCallsOf ops

end Generator

/-- What stands in the emulator's code for a parameter for which null is passed: a flag of its own,
and a test of it. -/
def nullGuard (p : Param) : String :=
  "    " ++ "static bool " ++ "shown_" ++ p.name ++ ";\n" ++
  "    " ++ "if (!" ++ "shown_" ++ p.name ++ " && " ++ p.guestValue ++ ") \x7b\n"

section Declarations

variable {c : Catalog} {settings : Settings} {function : String} {p : Param} {d : Declaration}

theorem declareNull_text (settings : Settings) (function : String) (p : Param) :
    ∃ rest, (Strategy.declareNull settings function p).text = nullGuard p ++ rest := by
  unfold Strategy.declareNull nullGuard shownFlagName
  simp only [bodyLine_one, String.append_assoc]
  exact ⟨_, rfl⟩

/-- A struct parameter for which null is passed can always be declared. -/
theorem declare_of_passesNull (settings : Settings) (function : String)
    (h : c.passesNull p = true) :
    Strategy.structIn.declare c settings function p =
      .ok (Strategy.declareNull settings function p) := by
  obtain ⟨single, excluded⟩ := (Bool.and_eq_true ..).mp h
  simp [Strategy.declare, Strategy.declareStruct, single, excluded]

theorem warning?_of_declared {s : Strategy} (declared : s.declare c settings function p = .ok d) :
    d.warning? function =
      if s = .structIn ∧ c.passesNull p then some (NullCall.warning { function, param := p })
      else none := by
  cases s with
  | direct => simp [Declaration.warning?, (Strategy.declareDirect_eq_ok declared).2.2]
  | mapMemory range => simp [Declaration.warning?, (Strategy.declareRange_eq_ok declared).2]
  | structIn =>
    obtain ⟨single, kind⟩ := Strategy.declareStruct_eq_ok declared
    rcases kind with ⟨excluded, rfl⟩ | ⟨included, _, rfl⟩
    · simp [Catalog.passesNull, single, excluded]
      rfl
    · simp [Catalog.passesNull, included]
      rfl

end Declarations

namespace HostFunction

variable {f : HostFunction} {c : Catalog} {settings : Settings}

theorem warnings_of_declared {params : List Param} {ds : List Declaration}
    (declared : List.Forall₂
      (fun p d => (c.strategy f.name p).declare c settings f.name p = .ok d) params ds) :
    warnings f.name ds =
      (params.filter fun p => c.strategy f.name p = .structIn ∧ c.passesNull p).map
        fun param => NullCall.warning { function := f.name, param } := by
  induction declared with
  | nil => rfl
  | @cons p d params ds first _ ih =>
    rw [warnings_cons, ih, warning?_of_declared first, List.filter_cons]
    by_cases null : c.strategy f.name p = .structIn ∧ c.passesNull p
    · simp [null]
    · rw [if_neg null, if_neg (by simpa using null)]
      rfl

theorem passed_of_declared {params : List Param} {ds : List Declaration}
    (declared : List.Forall₂
      (fun p d => (c.strategy f.name p).declare c settings f.name p = .ok d) params ds) :
    ∀ p ∈ params, ((c.strategy f.name p).declare c settings f.name p).isOk = true := by
  induction declared with
  | nil => simp
  | cons first _ ih =>
    intro p member
    rcases List.mem_cons.1 member with rfl | member
    · rw [first]
      rfl
    · exact ih p member

/-- The declarations of an attempt are those of the parameters that it reaches. -/
theorem reachedParams_declared (f : HostFunction) (c : Catalog) (settings : Settings) :
    List.Forall₂ (fun p d => (c.strategy f.name p).declare c settings f.name p = .ok d)
      (f.reachedParams c settings) (f.attempt c settings).declarations := by
  unfold reachedParams
  rcases f.attempt_cases c settings with
    ⟨fault, refused, attempted⟩ | ⟨ds, fault, admitted, outcome, attempted⟩ |
      ⟨ds, admitted, outcome, attempted⟩
  · rw [refused, attempted]
    exact .nil
  · rw [admitted, attempted]
    obtain ⟨before, p, after, obstacle, split, declared, failed, _⟩ := declareAll_obstacle outcome
    have passed : ∀ q ∈ before, ((c.strategy f.name q).declare c settings f.name q).isOk = true :=
      passed_of_declared declared
    rw [split, if_neg (by decide), List.takeWhile_append_of_pos passed,
      List.takeWhile_cons_of_neg (by simp [failed, Except.isOk, Except.toBool]), List.append_nil]
    exact declared
  · rw [admitted, attempted]
    have declared := List.forall₂_map_left_iff.1 (declareAll_complete outcome)
    rw [if_neg (by decide), List.takeWhile_eq_self_iff.2 (passed_of_declared declared)]
    exact declared

theorem warnings_attempt (f : HostFunction) (c : Catalog) (settings : Settings) :
    warnings f.name (f.attempt c settings).declarations =
      (f.nullCalls c settings).map NullCall.warning := by
  rw [warnings_of_declared (f.reachedParams_declared c settings), nullCalls, List.map_map]
  rfl

end HostFunction

namespace Generator

variable {g h k : Generator}

/-- On the way from one generator to another the first of the calls is reported, unless one was
reported before; no other one is. -/
structure WarnsFirst (g h : Generator) (events : List Event) (calls : List NullCall) : Prop where
  reported : events.filter Event.isWarning = firstOf g.warned (calls.map NullCall.warning)
  remembered : h.warned = (g.warned || !calls.isEmpty)

namespace WarnsFirst

theorem of_quiet {events : List Event} (quiet : events.filter Event.isWarning = [])
    (same : h.warned = g.warned) : WarnsFirst g h events [] := by
  refine ⟨?_, by simp [same]⟩
  rw [quiet]
  cases g.warned <;> rfl

theorem of_reported {events : List Event} {calls : List NullCall}
    (reported : events = firstOf g.warned (calls.map NullCall.warning))
    (remembered : h.warned = (g.warned || !calls.isEmpty)) : WarnsFirst g h events calls := by
  refine ⟨?_, remembered⟩
  rw [reported, List.filter_eq_self]
  intro e member
  obtain ⟨call, _, rfl⟩ := List.mem_map.1 (mem_of_mem_firstOf member)
  rfl

theorem append {first others : List Event} {calls more : List NullCall}
    (start : WarnsFirst g h first calls) (rest : WarnsFirst h k others more) :
    WarnsFirst g k (first ++ others) (calls ++ more) := by
  constructor
  · rw [List.filter_append, start.reported, rest.reported, start.remembered, List.map_append,
      firstOf_append, List.isEmpty_map]
  · rw [rest.remembered, start.remembered, Bool.or_assoc]
    cases calls <;> simp

/-- Events that are no warnings may come last. -/
theorem append_quiet {first others : List Event} {calls : List NullCall}
    (start : WarnsFirst g h first calls) (quiet : others.filter Event.isWarning = [])
    (same : k.warned = h.warned) : WarnsFirst g k (first ++ others) calls := by
  have both := start.append (of_quiet quiet same)
  rwa [List.append_nil] at both

end WarnsFirst

theorem warnsFirst_recordAll (g : Generator) (f : HostFunction) :
    let attempt := f.attempt g.catalog g.settings
    WarnsFirst g (g.recordAll f.name attempt.declarations).1
      (g.recordAll f.name attempt.declarations).2 (f.nullCalls g.catalog g.settings) := by
  intro attempt
  obtain ⟨reported, remembered⟩ := g.recordAll_eq f.name attempt.declarations
  rw [f.warnings_attempt] at reported remembered
  rw [List.isEmpty_map] at remembered
  exact .of_reported reported remembered

theorem commit_quiet (g : Generator) :
    g.commit.2.filter Event.isWarning = [] ∧ g.commit.1.warned = g.warned := by
  refine ⟨?_, by rw [commit_generator]⟩
  rw [commit_events, List.filter_eq_nil_iff]
  intro e member
  obtain ⟨type, _, rfl⟩ := List.mem_map.1 member
  exact Bool.false_ne_true

/-- An emission warns for the parameters that it reaches, also if it fails after them. -/
theorem warnsFirst_emit (g : Generator) (f : HostFunction) :
    WarnsFirst g (g.emit f).generator (g.emit f).events (f.nullCalls g.catalog g.settings) := by
  have recorded := g.warnsFirst_recordAll f
  cases outcome : (g.emit f).result with
  | error fault =>
    rw [emit_events_of_error outcome, emit_generator_of_error outcome]
    exact ⟨recorded.reported, recorded.remembered⟩
  | ok text =>
    rw [emit_events_of_ok outcome, emit_generator_of_ok outcome]
    obtain ⟨quiet, same⟩ := commit_quiet
      (g.recordAll f.name (f.attempt g.catalog g.settings).declarations).1
    exact recorded.append_quiet quiet same

theorem warnsFirst_declare (g : Generator) (s : Strategy) (function : Signature) (p : Param) :
    WarnsFirst g (g.perform (.declare s function p)).1 (g.perform (.declare s function p)).2
      (g.nullCalls (.declare s function p)) := by
  simp only [perform]
  cases outcome : (g.declare s function p).result with
  | error fault =>
    have none_passed : g.nullCalls (.declare s function p) = [] := by
      cases s with
      | direct | mapMemory => rfl
      | structIn =>
        apply if_neg
        intro null
        have declared := declare_eq_ok_iff.2 (declare_of_passesNull g.settings function.name null)
        rw [outcome] at declared
        cases declared
    rw [none_passed, declare_events_of_error outcome, declare_generator_of_error outcome]
    exact .of_quiet rfl rfl
  | ok d =>
    have due : warnings function.name [d] =
        (g.nullCalls (.declare s function p)).map NullCall.warning := by
      rw [warnings_cons, warning?_of_declared (declare_eq_ok_iff.1 outcome)]
      cases s with
      | direct | mapMemory => simp [warnings, nullCalls]
      | structIn =>
        by_cases null : g.catalog.passesNull p = true <;> simp [warnings, nullCalls, null]
    have remembered := (g.recordAll_eq function.name [d]).2
    rw [due, List.isEmpty_map] at remembered
    rw [declare_events_of_ok outcome, declare_generator_of_ok outcome, due]
    exact .of_reported rfl remembered

theorem tried_emit (g : Generator) (f : HostFunction) (policy : Policy)
    (functions : List HostFunction) :
    (g.emit f).generator.tried policy functions = g.tried policy functions := by
  induction functions with
  | nil => rfl
  | cons other rest ih => rw [tried, tried, wraps_emit, ih]

theorem warnsFirst_emitAll (g : Generator) (policy : Policy) (functions : List HostFunction) :
    WarnsFirst g (g.emitAll policy functions).generator (g.emitAll policy functions).events
      ((g.tried policy functions).flatMap (·.nullCalls g.catalog g.settings)) := by
  induction functions generalizing g with
  | nil => exact .of_quiet rfl rfl
  | cons f rest ih =>
    have first := g.warnsFirst_emit f
    have others := ih (g.emit f).generator
    rw [tried_emit, emit_catalog, emit_settings] at others
    unfold tried
    cases outcome : (g.emit f).result with
    | ok text =>
      rw [emitAll_of_ok outcome, if_neg (by simp [wraps_of_ok outcome])]
      exact first.append others
    | error fault =>
      cases policy with
      | skip =>
        rw [emitAll_skip_of_error outcome, if_neg (by simp)]
        exact first.append ⟨others.reported, others.remembered⟩
      | abort =>
        rw [emitAll_abort_of_error outcome, if_pos (by simp [wraps_of_error outcome]),
          List.flatMap_singleton]
        exact first

theorem warnsFirst_perform (g : Generator) {op : Operation} (table : op.KeepsTable)
    (kept : op ≠ .resetWarning) :
    WarnsFirst g (g.perform op).1 (g.perform op).2 (g.nullCalls op) := by
  cases op with
  | changeTable => exact table.elim
  | resetWarning => exact absurd rfl kept
  | emit f => exact g.warnsFirst_emit f
  | generate policy functions => exact g.warnsFirst_emitAll policy (sortByName functions)
  | commit => exact .of_quiet g.commit_quiet.1 g.commit_quiet.2
  | mark type =>
    refine .of_quiet rfl ?_
    simp only [perform, mark]
    split <;> rfl
  | stage | discard | publish | configure => exact .of_quiet rfl rfl
  | declare s function p => exact g.warnsFirst_declare s function p

theorem warnsFirst_run (g : Generator) {ops : List Operation}
    (table : ∀ op ∈ ops, op.KeepsTable) (kept : .resetWarning ∉ ops) :
    WarnsFirst g (g.run ops).1 (g.run ops).2 (g.nullCallsOf ops) := by
  induction ops generalizing g with
  | nil => exact .of_quiet rfl rfl
  | cons op ops ih =>
    have first := g.warnsFirst_perform (table op (List.mem_cons_self ..))
      (List.ne_of_not_mem_cons kept).symm
    have others := ih (g.perform op).1
      (fun other member => table other (List.mem_cons_of_mem op member))
      (List.not_mem_of_not_mem_cons kept)
    exact first.append others

/-- Both generators produce the same text, or fail in the same way, whatever they are given. -/
structure SameTexts (g h : Generator) : Prop where
  emit : ∀ f, (h.emit f).result = (g.emit f).result
  generate : ∀ policy functions,
    (h.generate policy functions).result = (g.generate policy functions).result
  declare : ∀ s function p, (h.declare s function p).result = (g.declare s function p).result

/-- Every parameter for which null is passed has its guard, alone and in a wrapper. -/
structure GuardsNulls (g : Generator) : Prop where
  declare : ∀ function p, g.catalog.passesNull p = true →
    ∃ rest, ∃ d : Declaration, (g.declare .structIn function p).result = .ok d ∧
      d.text = nullGuard p ++ rest
  emit : ∀ f text, (g.emit f).result = .ok text →
    ∃ head tail, ∃ ds : List Declaration, text = head ++ String.join (ds.map (·.text)) ++ tail ∧
      List.Forall₂ (fun p d => g.catalog.strategy f.name p = .structIn → g.catalog.passesNull p →
        ∃ rest, d.text = nullGuard p ++ rest) f.params ds

theorem assembled_split (g : Generator) (f : HostFunction) (ds : List Declaration) :
    ∃ head tail, g.assembled f ds = head ++ String.join (ds.map (·.text)) ++ tail := by
  let head := "// " ++ f.name ++ "\n" ++ "void " ++ g.settings.wrapperPrefix ++ f.name ++
    "(CPU* cpu) \x7b\n"
  let published := List.zipWith (fun p d =>
    (g.catalog.strategy f.name p).publish g.settings f.callStatus d.param) f.params ds
  let tail := g.callLine f (ds.map (·.param)) ++ String.join published ++ g.returnLine f ++ "\x7d\n"
  refine ⟨head, tail, ?_⟩
  unfold assembled
  simp only [head, published, tail, String.append_assoc]

theorem sameTexts_warned (g : Generator) (warned : Bool) : SameTexts g { g with warned } := by
  refine ⟨fun f => emit_result_congr rfl rfl, generate_result_congr rfl rfl, ?_⟩
  intro s function p
  unfold declare
  cases s.declare g.catalog g.settings function.name p <;> rfl

theorem guardsNulls (g : Generator) : g.GuardsNulls := by
  constructor
  · intro function p null
    obtain ⟨rest, text⟩ := declareNull_text g.settings function.name p
    have declared := declare_of_passesNull g.settings function.name null
    exact ⟨rest, _, declare_eq_ok_iff.2 declared, text⟩
  · intro f text complete
    rw [emit_result] at complete
    obtain ⟨declared, rfl⟩ := HostFunction.attempt_eq_ok complete
    generalize (f.attempt g.catalog g.settings).declarations = ds at declared
    obtain ⟨head, tail, split⟩ := g.assembled_split f ds
    refine ⟨head, tail, ds, (g.wrapperText_eq_assembled f ds).trans split, ?_⟩
    refine declared.imp fun p d made chosen null => ?_
    rw [chosen, declare_of_passesNull g.settings f.name null] at made
    cases made
    exact declareNull_text g.settings f.name p

/-- What is reported between two resets, or between the start and the first reset, and what the
generator remembers of it. -/
theorem run_warns_once (catalog : Catalog) (settings : Settings)
    (before between : List Operation) (table : ∀ op ∈ before ++ between, op.KeepsTable)
    (kept : .resetWarning ∉ between)
    (fresh : before = [] ∨ ∃ earlier, before = earlier ++ [.resetWarning]) :
    let start := (run { catalog, settings } before).1
    let r := start.run between
    (run { catalog, settings } (before ++ between) =
        (r.1, (run { catalog, settings } before).2 ++ r.2)) ∧
    (r.2.filter Event.isWarning =
        (start.nullCallsOf between).head?.toList.map NullCall.warning ∧
      (r.2.filter Event.isWarning).length ≤ 1 ∧
      (r.1.warned = true ↔ ∃ e ∈ r.2, e.isWarning = true)) ∧
    ∀ (g : Generator) (warned : Bool), SameTexts g { g with warned } ∧ g.GuardsNulls := by
  intro start r
  have tableBetween : ∀ op ∈ between, op.KeepsTable := fun op member =>
    table op (List.mem_append_right before member)
  have unwarned : start.warned = false := by
    rcases fresh with rfl | ⟨earlier, rfl⟩
    · rfl
    · simp only [start, run_append]
      rfl
  have warns := start.warnsFirst_run tableBetween kept
  have reported := warns.reported
  rw [unwarned, firstOf, if_neg (by decide), List.head?_map] at reported
  have calls : r.2.filter Event.isWarning =
      (start.nullCallsOf between).head?.toList.map NullCall.warning := by
    rw [reported]
    cases (start.nullCallsOf between).head? <;> rfl
  refine ⟨run_append .., ⟨calls, ?_, ?_⟩, ?_⟩
  · rw [calls, List.length_map]
    cases (start.nullCallsOf between).head? <;> simp
  · rw [warns.remembered, unwarned]
    have warned : (∃ e ∈ r.2, e.isWarning = true) ↔ r.2.filter Event.isWarning ≠ [] := by
      simp [List.filter_eq_nil_iff]
    rw [warned, calls]
    cases start.nullCallsOf between <;> simp
  · exact fun g warned => ⟨g.sameTexts_warned warned, g.guardsNulls⟩

end Generator

/-- Passes null for its first parameter and fails at its second. -/
def failsAfterNull : HostFunction :=
  { name := "vkFail"
    params := [
      { name := "allocator", type := "VkAllocationCallbacks", isPointer := true
        guestValue := "ARG1", hostValue := "allocator" },
      { name := "out", type := "void", isPointer := true, isDoublePointer := true
        guestValue := "ARG2", hostValue := "out" }] }

theorem run_warns_once_failsAfterNull :
    let null : Operation :=
      .declare .structIn { name := "vkUse" } (pointerTo "VkAllocationCallbacks")
    let before := [null, .resetWarning]
    let between := [.emit copiesInfo, .emit failsAfterNull, null]
    (∀ op ∈ before ++ between, op.KeepsTable) ∧ .resetWarning ∉ between ∧
      let start := (Generator.run { catalog := requester } before).1
      (start.run between).2.filter Event.isWarning =
        [.nullPassed "VkAllocationCallbacks" "vkFail" "allocator"] := by
  intro null before between
  have table : ∀ op ∈ before ++ between, op.KeepsTable := by
    simp [before, between, null, Operation.KeepsTable]
  have kept : .resetWarning ∉ between := by simp [between, null]
  obtain ⟨_, ⟨reported, _⟩, _⟩ := Generator.run_warns_once requester {} before between table kept
    (.inr ⟨[null], rfl⟩)
  refine ⟨table, kept, reported.trans ?_⟩
  decide

end HostCall
