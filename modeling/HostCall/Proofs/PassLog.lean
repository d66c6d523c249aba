import HostCall.Proofs.Isolation
import HostCall.Proofs.Warning

/-!
The log of a pass. It goes through the functions in the order of the pass and says of each what
became of it, after at most one warning; so what it says can be read off what the pass returns, and
the other way round. A pass that starts with nothing staged only ever commits registered types.
-/
namespace HostCall

namespace Event

/-- What a log shows of an event. -/
def line (e : Event) : Level × String × List (String × Detail) := (e.level, e.message, e.details)

def emitted? : Event → Option String
  | .emitted function _ => some function
  | .nullPassed .. | .unregistered _ | .skipping _ | .loading _ | .loaded .. | .generating
  | .verifying | .finished .. => none

def skipping? : Event → Option Unsupported
  | .skipping fault => some fault
  | .nullPassed .. | .emitted .. | .unregistered _ | .loading _ | .loaded .. | .generating
  | .verifying | .finished .. => none

def WarnsIn (function : String) (e : Event) : Prop :=
  ∃ type param, e = .nullPassed type function param ∧
    e.line = (.warn, type ++ " is not implemented; generated wrappers pass NULL",
      [("function", .text function), ("param", .text param)])

theorem warnsIn_of_due {function : String} {ds : List Declaration} {e : Event}
    (h : e ∈ warnings function ds) : e.WarnsIn function := by
  obtain ⟨d, _, due⟩ := List.mem_filterMap.1 h
  unfold Declaration.warning? at due
  split at due
  · cases due
    exact ⟨_, _, rfl, rfl⟩
  · cases due
  · cases due

theorem WarnsIn.emitted? {function : String} {e : Event} (h : e.WarnsIn function) :
    e.emitted? = none := by
  obtain ⟨type, param, rfl, _⟩ := h
  rfl

theorem WarnsIn.skipping? {function : String} {e : Event} (h : e.WarnsIn function) :
    e.skipping? = none := by
  obtain ⟨type, param, rfl, _⟩ := h
  rfl

theorem WarnsIn.ne_unregistered {function type : String} {e : Event} (h : e.WarnsIn function) :
    e ≠ .unregistered type := by
  obtain ⟨_, _, rfl, _⟩ := h
  exact fun impossible => nomatch impossible

end Event

namespace Generator

variable {g : Generator} {policy : Policy} {f : HostFunction}

/-- What is reported last of a function that is tried. -/
def conclusion (g : Generator) (policy : Policy) (f : HostFunction) : List Event :=
  match (g.emit f).result, policy with
  | .ok _, _ => [.emitted f.name f.params.length]
  | .error fault, .skip => [.skipping fault]
  -- The pass ends here.
  | .error _, .abort => []

def conclusionLines (g : Generator) (policy : Policy) (f : HostFunction) :
    List (Level × String × List (String × Detail)) :=
  match (g.emit f).result, policy with
  | .ok _, _ =>
    [(.debug, "emitted wrapper", [("function", .text f.name), ("params", .count f.params.length)])]
  | .error fault, .skip => [(.warn, "skipping " ++ f.name ++ ": " ++ fault.message, [])]
  | .error _, .abort => []

/-- The log of a function in a pass: a warning, if any, and then what became of the function. -/
def LogOf (g : Generator) (policy : Policy) (f : HostFunction) (log : List Event) : Prop :=
  ∃ warnings, log = warnings ++ g.conclusion policy f ∧ warnings.length ≤ 1 ∧
    ∀ e ∈ warnings, e.WarnsIn f.name

theorem conclusion_of_ok {text : String} (h : (g.emit f).result = .ok text) :
    g.conclusion policy f = [.emitted f.name f.params.length] := by
  unfold conclusion
  rw [h]

theorem conclusion_skip_of_error {fault : Unsupported} (h : (g.emit f).result = .error fault) :
    g.conclusion .skip f = [.skipping fault] := by
  unfold conclusion
  rw [h]

theorem conclusion_abort_of_error {fault : Unsupported} (h : (g.emit f).result = .error fault) :
    g.conclusion .abort f = [] := by
  unfold conclusion
  rw [h]

theorem conclusion_lines (g : Generator) (policy : Policy) (f : HostFunction) :
    (g.conclusion policy f).map Event.line = g.conclusionLines policy f := by
  unfold conclusion conclusionLines
  cases outcome : (g.emit f).result with
  | ok text => rfl
  | error fault =>
    cases policy with
    | abort => rfl
    | skip =>
      have own : fault.function = f.name := function_of_fault? (fault?_eq_some_iff.2 outcome)
      rw [← own]
      rfl

theorem logOf_congr {h : Generator} (catalog : h.catalog = g.catalog)
    (settings : h.settings = g.settings) : h.LogOf policy = g.LogOf policy := by
  funext other log
  unfold LogOf conclusion
  rw [emit_result_congr catalog settings]

/-- Every type that a wrapper asks for is registered, so its commit has nothing to report. -/
theorem commit_reports_nothing (idle : g.staged = ∅) (f : HostFunction) :
    (g.recordAll f.name (f.attempt g.catalog g.settings).declarations).1.commit.2 = [] := by
  rw [commit_events, List.map_eq_nil_iff, List.filter_eq_nil_iff, recordAll_generator]
  intro type staged
  have asked : type ∈ requests (f.attempt g.catalog g.settings).declarations := by
    rcases NameSet.mem_insertAll.1 (NameSet.mem_toList.1 staged) with asked | old
    · exact asked
    · rw [idle] at old
      exact absurd old (NameSet.not_mem_empty type)
  simp [(HostFunction.marshallable_of_requests asked).isRegistered]

theorem recorded_warnings (g : Generator) (f : HostFunction) :
    let recorded := (g.recordAll f.name (f.attempt g.catalog g.settings).declarations).2
    recorded.length ≤ 1 ∧ ∀ e ∈ recorded, e.WarnsIn f.name := by
  intro recorded
  have reported : recorded = firstOf g.warned (warnings f.name _) := (recordAll_eq ..).1
  rw [reported]
  refine ⟨?_, fun e member => Event.warnsIn_of_due (mem_of_mem_firstOf member)⟩
  unfold firstOf
  split
  · exact Nat.zero_le 1
  · cases (warnings f.name _).head? <;> simp

/-- One function after the other logs its part, as long as the pass goes on. -/
theorem emitAll_log (policy : Policy) (functions : List HostFunction) (idle : g.staged = ∅) :
    ∃ logs : List (List Event), (g.emitAll policy functions).events = logs.flatten ∧
      List.Forall₂ (g.LogOf policy) (g.tried policy functions) logs := by
  induction functions generalizing g with
  | nil => exact ⟨[], rfl, .nil⟩
  | cons f rest ih =>
    obtain ⟨atMost, warns⟩ := g.recorded_warnings f
    obtain ⟨logs, others, related⟩ := ih (g := (g.emit f).generator) (emit_staged g f)
    rw [logOf_congr (emit_catalog g f) (emit_settings g f), tried_emit] at related
    unfold tried
    cases outcome : (g.emit f).result with
    | ok text =>
      have own : g.LogOf policy f (g.emit f).events := by
        refine ⟨_, ?_, atMost, warns⟩
        rw [conclusion_of_ok outcome, emit_events_of_ok outcome, commit_reports_nothing idle]
      rw [emitAll_of_ok outcome, if_neg (by simp [wraps_of_ok outcome])]
      exact ⟨(g.emit f).events :: logs, by rw [others, List.flatten_cons], .cons own related⟩
    | error fault =>
      cases policy with
      | skip =>
        have own : g.LogOf .skip f ((g.emit f).events ++ [.skipping fault]) := by
          refine ⟨_, ?_, atMost, warns⟩
          rw [conclusion_skip_of_error outcome, emit_events_of_error outcome]
        rw [emitAll_skip_of_error outcome, if_neg (by simp)]
        refine ⟨((g.emit f).events ++ [.skipping fault]) :: logs, ?_, .cons own related⟩
        rw [List.flatten_cons, ← others, List.append_assoc]
        rfl
      | abort =>
        have own : g.LogOf .abort f (g.emit f).events := by
          refine ⟨_, ?_, atMost, warns⟩
          rw [conclusion_abort_of_error outcome, emit_events_of_error outcome, List.append_nil]
        rw [emitAll_abort_of_error outcome, if_pos (by simp [wraps_of_error outcome])]
        exact ⟨[(g.emit f).events], by simp, .cons own .nil⟩

theorem conclusion_ne_unregistered {e : Event} (h : e ∈ g.conclusion policy f) (type : String) :
    e ≠ .unregistered type := by
  rintro rfl
  cases outcome : (g.emit f).result with
  | ok text => simp [conclusion_of_ok outcome] at h
  | error fault =>
    cases policy with
    | skip => simp [conclusion_skip_of_error outcome] at h
    | abort => simp [conclusion_abort_of_error outcome] at h

/-- What a log says of functions is what became of them, function by function. -/
theorem filterMap_log {β : Type} {pick : Event → Option β} {functions : List HostFunction}
    {logs : List (List Event)} (related : List.Forall₂ (g.LogOf policy) functions logs)
    (silent : ∀ (function : String) (e : Event), e.WarnsIn function → pick e = none) :
    logs.flatten.filterMap pick =
      functions.flatMap fun f => (g.conclusion policy f).filterMap pick := by
  induction related with
  | nil => rfl
  | @cons f log functions logs own _ ih =>
    obtain ⟨warnings, rfl, _, warns⟩ := own
    have nothing : warnings.filterMap pick = [] := by
      rw [List.filterMap_eq_nil_iff]
      exact fun e member => silent f.name e (warns e member)
    rw [List.flatten_cons, List.filterMap_append, List.filterMap_append, nothing, ih,
      List.flatMap_cons, List.nil_append]

theorem conclusion_emitted? (g : Generator) (policy : Policy) (f : HostFunction) :
    (g.conclusion policy f).filterMap Event.emitted? = if g.wraps f then [f.name] else [] := by
  cases outcome : (g.emit f).result with
  | ok text =>
    rw [conclusion_of_ok outcome, if_pos (wraps_of_ok outcome)]
    rfl
  | error fault =>
    rw [if_neg (by simp [wraps_of_error outcome])]
    cases policy with
    | skip => rw [conclusion_skip_of_error outcome]; rfl
    | abort => rw [conclusion_abort_of_error outcome]; rfl

theorem conclusion_skipping? (passed : policy = .abort → g.wraps f = true) :
    (g.conclusion policy f).filterMap Event.skipping? = (g.fault? f).toList := by
  cases outcome : (g.emit f).result with
  | ok text =>
    rw [conclusion_of_ok outcome, fault?_eq_none_iff.2 (wraps_of_ok outcome)]
    rfl
  | error fault =>
    cases policy with
    | skip =>
      rw [conclusion_skip_of_error outcome, fault?_eq_some_iff.2 outcome]
      rfl
    | abort =>
      have impossible := passed rfl
      rw [wraps_of_error outcome] at impossible
      cases impossible

section Trace

variable {functions : List HostFunction} {logs : List (List Event)}
  (related : List.Forall₂ (g.LogOf policy) functions logs)

include related

theorem emitted_log :
    logs.flatten.filterMap Event.emitted? = (functions.filter g.wraps).map (·.name) := by
  rw [filterMap_log related fun _ _ => Event.WarnsIn.emitted?]
  clear related
  induction functions with
  | nil => rfl
  | cons f rest ih =>
    rw [List.flatMap_cons, ih, conclusion_emitted?]
    cases h : g.wraps f <;> simp [h]

theorem skipping_log (passed : policy = .abort → ∀ f ∈ functions, g.wraps f = true) :
    logs.flatten.filterMap Event.skipping? = functions.filterMap g.fault? := by
  rw [filterMap_log related fun _ _ => Event.WarnsIn.skipping?, List.filterMap_eq_flatMap_toList]
  refine List.flatMap_congr fun f member => ?_
  exact conclusion_skipping? fun abort => passed abort f member

theorem registered_log : ∀ e ∈ logs.flatten, ∀ type, e ≠ .unregistered type := by
  induction related with
  | nil => simp
  | @cons f log functions logs own _ ih =>
    obtain ⟨warnings, rfl, _, warns⟩ := own
    intro e member type
    rw [List.flatten_cons, List.mem_append, List.mem_append] at member
    rcases member with (warned | concluded) | later
    · exact (warns e warned).ne_unregistered
    · exact conclusion_ne_unregistered concluded type
    · exact ih e later type

end Trace

theorem tried_skip (g : Generator) (functions : List HostFunction) :
    g.tried .skip functions = functions := by
  induction functions with
  | nil => rfl
  | cons f rest ih => rw [tried, if_neg (by simp), ih]

theorem tried_of_wraps {functions rest : List HostFunction}
    (all : ∀ f ∈ functions, g.wraps f = true) :
    g.tried policy (functions ++ rest) = functions ++ g.tried policy rest := by
  induction functions with
  | nil => rfl
  | cons f functions ih =>
    obtain ⟨first, others⟩ := List.forall_mem_cons.1 all
    rw [List.cons_append, tried, if_neg (by simp [first]), ih others, List.cons_append]

/-- A pass that is not stopped goes through all functions. -/
theorem passed_of_not_stopped {functions : List HostFunction}
    (h : (g.emitAll policy functions).stopped = none) :
    (policy = .abort → ∀ f ∈ functions, g.wraps f = true) ∧
      g.reached policy functions = functions ∧ g.tried policy functions = functions := by
  obtain ⟨reached, wrapped⟩ := reached_of_not_stopped h
  refine ⟨wrapped, reached, ?_⟩
  cases policy with
  | skip => exact tried_skip g functions
  | abort =>
    have tried : g.tried .abort (functions ++ []) = functions ++ g.tried .abort [] :=
      tried_of_wraps (wrapped rfl)
    rw [List.append_nil] at tried
    rw [tried, Generator.tried, List.append_nil]

/-- What a pass reports: the log of every function that it tried, in the one order by name, and
nothing else. -/
theorem generate_log (g : Generator) (policy : Policy) (functions : List HostFunction)
    (idle : g.staged = ∅) :
    let r := g.generate policy functions
    ∃ sorted tried logs,
      (SortedByName functions sorted ∧ ∀ other, SortedByName functions other → other = sorted) ∧
      r.events = logs.flatten ∧ List.Forall₂ (g.LogOf policy) tried logs ∧
      (∀ f ∈ tried, (g.conclusion policy f).map Event.line = g.conclusionLines policy f) ∧
      (∀ e ∈ r.events, ∀ type, e ≠ .unregistered type) ∧
      match r.result with
      | .ok thunks => tried = sorted ∧ r.events.filterMap Event.emitted? = thunks.emitted ∧
          r.events.filterMap Event.skipping? = thunks.skipped
      | .error fault => policy = .abort ∧ ∃ before failing rest,
          sorted = before ++ failing :: rest ∧ tried = before ++ [failing] ∧
          (∀ f ∈ before, g.wraps f = true) ∧ (g.emit failing).result = .error fault ∧
          r.events.filterMap Event.emitted? = before.map (·.name) := by
  intro r
  have sorted := sortByName_sorted functions
  obtain ⟨logs, events, related⟩ := emitAll_log policy (sortByName functions) idle
  have events : r.events = logs.flatten := events
  refine ⟨sortByName functions, g.tried policy (sortByName functions), logs,
    ⟨sorted, fun other h => h.unique sorted⟩, events, related,
    fun f _ => g.conclusion_lines policy f, ?_, ?_⟩
  · rw [events]
    exact registered_log related
  · have result : r.result = _ := generate_result g policy functions
    rw [result, events, emitted_log related]
    cases stopped : (g.emitAll policy (sortByName functions)).stopped with
    | none =>
      obtain ⟨passed, reached, tried⟩ := passed_of_not_stopped stopped
      rw [tried] at related
      rw [reached, tried]
      exact ⟨rfl, (emitted_ofHandled g _).symm,
        (skipping_log related passed).trans (skipped_ofHandled g _).symm⟩
    | some fault =>
      dsimp only
      rw [emitAll_stopped] at stopped
      cases policy with
      | skip => cases stopped
      | abort =>
        obtain ⟨before, failing, rest, split, all, failed⟩ := first_failing stopped
        have reached : g.tried .abort (sortByName functions) = before ++ [failing] := by
          rw [split, tried_of_wraps all, tried, if_pos ⟨rfl, wraps_of_error failed⟩]
        have wrapped : (before ++ [failing]).filter g.wraps = before := by
          rw [List.filter_append, List.filter_eq_self.2 all, List.filter_cons_of_neg (by
            simp [wraps_of_error failed]), List.filter_nil, List.append_nil]
        refine ⟨rfl, before, failing, rest, split, reached, all, failed, ?_⟩
        rw [reached, wrapped]

end Generator

theorem generate_log_failsAfterNull :
    let g : Generator := { catalog := requester }
    let r := g.generate .skip [copiesInfo, failsAfterNull]
    g.staged = ∅ ∧
      r.events.map Event.line = [
        (.warn, "VkAllocationCallbacks is not implemented; generated wrappers pass NULL",
          [("function", .text "vkFail"), ("param", .text "allocator")]),
        (.warn, "skipping vkFail: vkFail: unsupported parameter `out`: " ++
          "double pointers need an explicit strategy", []),
        (.debug, "emitted wrapper", [("function", .text "vkMap"), ("params", .count 1)])] ∧
      ∃ sorted tried logs, SortedByName [copiesInfo, failsAfterNull] sorted ∧
        r.events = logs.flatten ∧ List.Forall₂ (g.LogOf .skip) tried logs := by
  intro g r
  have idle : g.staged = ∅ := rfl
  have order : [copiesInfo, failsAfterNull].Perm [failsAfterNull, copiesInfo] := .swap ..
  have sorted : sortByName [copiesInfo, failsAfterNull] = [failsAfterNull, copiesInfo] := by
    rw [← sortByName_eq_of_perm order (by decide)]
    exact List.mergeSort_of_pairwise (by decide)
  obtain ⟨order, tried, logs, ⟨inOrder, _⟩, events, related, _⟩ :=
    Generator.generate_log g .skip [copiesInfo, failsAfterNull] idle
  refine ⟨idle, ?_, order, tried, logs, inOrder, events, related⟩
  have reported : r.events = (g.emitAll .skip [failsAfterNull, copiesInfo]).events := by
    rw [← sorted]
    rfl
  rw [reported]
  decide +kernel

end HostCall
