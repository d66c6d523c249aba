import HostCall.Proofs.Assembly
import HostCall.Proofs.Growth
import HostCall.Proofs.Lookup
import HostCall.Session

/-!
Whatever is done with a generator, in any order and as often as one likes. The registered types
never change, flags are never taken back, and the list of flagged types is an ascending part of the
registered names.
-/
namespace HostCall

/-- Something that is done with a generator. Declarations and publications may be those of any
strategy, whether it is the one that the catalog chooses or not. -/
inductive Operation where
  | mark (type : String)
  | stage (type : String)
  | commit
  | discard
  | declare (s : Strategy) (function : Signature) (p : Param)
  | publish (s : Strategy) (function : Signature) (p : Param)
  | emit (f : HostFunction)
  | generate (policy : Policy) (functions : List HostFunction)
  | configure (settings : Settings)
  | resetWarning
  /-- Strategies are chosen by another table from here on, which may have warned before. -/
  | changeTable (excluded : List String) (mappings : List Mapping) (warned : Bool)

namespace Generator

variable {g : Generator}

/-- The generator after an operation, with the events that it reports. -/
def perform (g : Generator) : Operation → Generator × List Event
  | .mark type => ((g.mark type).1, [])
  | .stage type => (g.stage type, [])
  | .commit => g.commit
  | .discard => (g.discard, [])
  | .declare s function p =>
    let d := g.declare s function p
    (d.generator, d.events)
  -- Publications are text only.
  | .publish .. => (g, [])
  | .emit f =>
    let e := g.emit f
    (e.generator, e.events)
  | .generate policy functions =>
    let r := g.generate policy functions
    (r.generator, r.events)
  | .configure settings => ({ g with settings }, [])
  | .resetWarning => ({ g with warned := false }, [])
  | .changeTable excluded mappings warned =>
    ({ g with catalog := { g.catalog with excluded, mappings }, warned }, [])

def run (g : Generator) : List Operation → Generator × List Event
  | [] => (g, [])
  | op :: ops =>
    let (h, first) := g.perform op
    let (last, others) := h.run ops
    (last, first ++ others)

end Generator

/-- Operations that flag nothing: emissions among them only where they fail. -/
def Operation.FlagsNothing (g : Generator) : Operation → Prop
  | .mark _ | .commit | .generate .. => False
  | .emit f => ∃ fault, (g.emit f).result = .error fault
  | .stage _ | .discard | .declare .. | .publish .. | .configure _ | .resetWarning
  | .changeTable .. => True

/-- Operations that do not change the table; its warning may be reset. -/
def Operation.KeepsTable : Operation → Prop
  | .changeTable .. => False
  | .mark _ | .stage _ | .commit | .discard | .declare .. | .publish .. | .emit _ | .generate ..
  | .configure _ | .resetWarning => True

theorem Catalog.mem_names {c : Catalog} {type : String} :
    type ∈ c.names ↔ c.isRegistered type = true := by
  unfold names isRegistered category?
  rw [NameSet.mem_ofList, List.mem_map, Option.isSome_map, Option.isSome_iff_ne_none, ne_eq,
    findRev?_eq_none_iff]
  simp

namespace Generator

variable {g : Generator}

theorem declare_frame (g : Generator) (s : Strategy) (function : Signature) (p : Param) :
    (g.declare s function p).generator.catalog = g.catalog ∧
      (g.declare s function p).generator.flagged = g.flagged := by
  unfold declare
  cases s.declare g.catalog g.settings function.name p with
  | error obstacle => exact ⟨rfl, rfl⟩
  | ok d =>
    simp only [record_generator]
    exact ⟨trivial, trivial⟩

theorem perform_flagged {op : Operation} (quiet : op.FlagsNothing g) :
    (g.perform op).1.flagged = g.flagged := by
  cases op with
  | mark | commit | generate => exact quiet.elim
  | emit f =>
    obtain ⟨fault, failed⟩ := quiet
    exact emit_flagged_of_error failed
  | declare s function p => exact (declare_frame g s function p).2
  | stage | discard | publish | configure | resetWarning | changeTable => rfl

theorem perform_grows (g : Generator) (op : Operation) : Grows g (g.perform op).1 := by
  cases op with
  | mark type => exact mark_grows g type
  | commit => exact commit_grows g
  | emit f => exact emit_grows g f
  | generate policy functions => exact emitAll_grows g policy (sortByName functions)
  | declare s function p =>
    obtain ⟨catalog, flagged⟩ := declare_frame g s function p
    exact .of_flagged_eq (congrArg Catalog.types catalog) flagged
  | stage | discard | publish | configure | resetWarning | changeTable =>
    exact .of_flagged_eq rfl rfl

theorem perform_catalog (g : Generator) {op : Operation} (table : op.KeepsTable) :
    (g.perform op).1.catalog = g.catalog := by
  cases op with
  | changeTable => exact table.elim
  | mark type =>
    simp only [perform, mark]
    split <;> rfl
  | commit => simp only [perform, commit_generator]
  | declare s function p => exact (declare_frame g s function p).1
  | emit f => exact emit_catalog g f
  | generate policy functions =>
    have step : ∀ (h : Generator) (f : HostFunction), h.catalog = g.catalog →
        (h.emit f).generator.catalog = g.catalog := fun h f same => (emit_catalog h f).trans same
    exact emitAll_invariant step policy (sortByName functions) rfl
  | stage | discard | publish | configure | resetWarning => rfl

theorem run_catalog (g : Generator) {ops : List Operation} (table : ∀ op ∈ ops, op.KeepsTable) :
    (g.run ops).1.catalog = g.catalog := by
  induction ops generalizing g with
  | nil => rfl
  | cons op ops ih =>
    have others := ih (g.perform op).1 fun other member =>
      table other (List.mem_cons_of_mem op member)
    exact others.trans (perform_catalog g (table op (List.mem_cons_self ..)))

theorem run_singleton (g : Generator) (op : Operation) : g.run [op] = g.perform op := by
  simp [run]

theorem run_append (g : Generator) (before after : List Operation) :
    g.run (before ++ after) =
      (((g.run before).1.run after).1, (g.run before).2 ++ ((g.run before).1.run after).2) := by
  induction before generalizing g with
  | nil => rfl
  | cons op before ih => simp only [List.cons_append, run, ih, List.append_assoc]

theorem run_grows (g : Generator) (ops : List Operation) : Grows g (g.run ops).1 := by
  induction ops generalizing g with
  | nil => exact .refl g
  | cons op ops ih => exact (perform_grows g op).trans (ih (g.perform op).1)

/-- The list of flagged types is the registered names in order, less those without a flag. -/
theorem flagged_toList (registered : ∀ type ∈ g.flagged, type ∈ g.catalog.names) :
    g.flagged.toList = g.catalog.names.toList.filter (· ∈ g.flagged) := by
  apply eq_of_mem_iff_of_ascending g.flagged.ascending
    (g.catalog.names.ascending.sublist List.filter_sublist)
  intro type
  rw [List.mem_filter, NameSet.mem_toList, NameSet.mem_toList, decide_eq_true_iff]
  constructor
  · intro flagged
    exact ⟨registered type flagged, flagged⟩
  · exact And.right

/-- What holds of a generator after any operations, where it had done nothing before them. -/
theorem run_invariants (catalog : Catalog) (settings : Settings) (ops : List Operation) :
    let g := (run { catalog, settings } ops).1
    (g.catalog.names = catalog.names ∧ g.catalog.category? = catalog.category?) ∧
    (∀ more, ∀ type ∈ g.flagged, type ∈ (g.run more).1.flagged) ∧
    (g.flagged.toList.Pairwise (· < ·) ∧ g.flagged.toList.Nodup ∧
      (∀ type ∈ g.flagged, type ∈ catalog.names) ∧
      g.flagged.toList = catalog.names.toList.filter (· ∈ g.flagged)) ∧
    ((∀ type, type ∈ g.commit.1.flagged ↔
        type ∈ g.flagged ∨ type ∈ g.staged ∧ type ∈ catalog.names) ∧
      g.commit.1.staged = ∅) ∧
    ∀ op : Operation, op.FlagsNothing g → (g.perform op).1.flagged = g.flagged := by
  intro g
  have grown : Grows { catalog, settings } g := run_grows _ ops
  have types : g.catalog.types = catalog.types := grown.types
  have names : g.catalog.names = catalog.names := by rw [Catalog.names, types, Catalog.names]
  have registered : ∀ type ∈ g.flagged, type ∈ g.catalog.names := by
    intro type flagged
    rcases grown.registered type flagged with old | known
    · exact absurd old (NameSet.not_mem_empty type)
    · rw [names]
      exact Catalog.mem_names.2 known
  refine ⟨⟨names, ?_⟩, ?_, ⟨g.flagged.ascending, ?_, ?_, ?_⟩, ⟨?_, ?_⟩, ?_⟩
  · funext type
    rw [Catalog.category?, types, Catalog.category?]
  · intro more
    exact (run_grows g more).kept
  · exact g.flagged.ascending.imp String.ne_of_lt
  · rw [← names]
    exact registered
  · rw [← names]
    exact flagged_toList registered
  · intro type
    rw [mem_commit_flagged, ← names, Catalog.mem_names]
  · rw [commit_generator]
  · intro op quiet
    exact perform_flagged quiet

end Generator

namespace Session

variable {s : Session} {r : Reply}

theorem declare_reply (s : Session) (index : Nat) (p : Param) (function : Signature)
    (choice : Choice) :
    s.generator.perform (.declare (s.choose function p choice) function p) =
      ((s.declare index p function choice).session.generator,
        (s.declare index p function choice).events) := by
  unfold declare Generator.perform
  cases outcome : (s.generator.declare (s.choose function p choice) function p).result with
  | error fault => simp only [outcome, withGenerator]
  | ok d => simp only [outcome, withGenerator]

/-- A step of a session does no more to its generator than one operation, and reports its events. -/
theorem step_run {step : Step} (h : s.step step = some r) :
    ∃ ops, s.generator.run ops = (r.session.generator, r.events) := by
  cases step with
  | mark type =>
    cases h
    exact ⟨[.mark type], rfl⟩
  | stage type =>
    cases h
    exact ⟨[.stage type], rfl⟩
  | commit =>
    cases h
    exact ⟨[.commit], Generator.run_singleton ..⟩
  | discard =>
    cases h
    exact ⟨[.discard], rfl⟩
  | configure settings =>
    cases h
    exact ⟨[.configure settings], rfl⟩
  | resetWarning =>
    cases h
    exact ⟨[.resetWarning], rfl⟩
  | generate policy =>
    cases h
    exact ⟨[.generate (policy.getD s.policy) s.functions], Generator.run_singleton ..⟩
  | emit index =>
    obtain ⟨f, _, rfl⟩ := Option.map_eq_some_iff.1 h
    exact ⟨[.emit f], Generator.run_singleton ..⟩
  | declare index function choice =>
    obtain ⟨p, _, rfl⟩ := Option.map_eq_some_iff.1 h
    refine ⟨[.declare (s.choose function p choice) function p], ?_⟩
    rw [Generator.run_singleton, declare_reply s index]
  | publish index function choice =>
    obtain ⟨p, _, rfl⟩ := Option.map_eq_some_iff.1 h
    exact ⟨[.publish (s.choose function p choice) function p], rfl⟩
  | needs | get | count | isStaged | marshalInList | returnStatement | isExcluded | plan =>
    cases h
    exact ⟨[], rfl⟩
  | strategy | renamed | «show» =>
    obtain ⟨_, _, rfl⟩ := Option.map_eq_some_iff.1 h
    exact ⟨[], rfl⟩

end Session

end HostCall
