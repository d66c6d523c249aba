import HostCall.Proofs.DraftedEmission
import HostCall.Proofs.Execution
import HostCall.Proofs.Isolation
import HostCall.Proofs.MarshalIn
import HostCall.Proofs.Operations

/-!
A plan tells what a generation does. It names a strategy for every parameter, in the order of the
descriptors, and wrappers are put together from the declarations and publications of these
strategies and of no others, whatever the generator has done before. A wrapper that fails for the
sake of a strategy fails at a parameter for which the plan names that strategy.
-/
namespace HostCall

def Obstacle.pointerReason : String := "double pointers need an explicit strategy"

def Obstacle.mappingReason : String := "mapped memory must be returned through a pointer"

/-- Obstacles that are met before anything is declared. -/
def Obstacle.IsEarly : Obstacle → Prop
  | functionNotIdentifier | voidChecked _ | paramNotIdentifier | inconsistentArity
  | statusLocalCollision | localDeclaredTwice _ => True
  | doublePointer | notSinglePointer | notAnAggregate .. | unknownLayout _
  | mappingNotThroughPointer | stated _ => False

theorem ne_of_head {first second : String} (h : first.toList.head? ≠ second.toList.head?) :
    first ≠ second := fun same => h (congrArg (fun text => text.toList.head?) same)

namespace Obstacle

theorem message_of_isEarly {o : Obstacle} (early : o.IsEarly) :
    o.message ≠ pointerReason ∧ o.message ≠ mappingReason := by
  cases o with
  | functionNotIdentifier | paramNotIdentifier | inconsistentArity | statusLocalCollision =>
    decide +kernel
  | voidChecked value =>
    have head : (voidChecked value).message.toList.head? = some 'v' := by
      change ("void function cannot be checked against " ++ value).toList.head? = _
      simp
    exact ⟨ne_of_head (by simp [head, pointerReason]), ne_of_head (by simp [head, mappingReason])⟩
  | localDeclaredTwice name =>
    have head : (localDeclaredTwice name).message.toList.head? = some 'l' := by
      change ("local `" ++ name ++ "` is declared twice").toList.head? = _
      simp
    exact ⟨ne_of_head (by simp [head, pointerReason]), ne_of_head (by simp [head, mappingReason])⟩
  | doublePointer | notSinglePointer | notAnAggregate | unknownLayout | mappingNotThroughPointer
  | stated => exact early.elim

end Obstacle

namespace HostFunction

variable {f : HostFunction} {c : Catalog} {settings : Settings} {fault : Unsupported}

theorem isEarly_of_signatureFault (h : f.signatureFault? settings = some fault) :
    fault.obstacle.IsEarly := by
  unfold signatureFault? at h
  split at h
  · cases h
    trivial
  · split at h
    · cases h
      trivial
    · obtain ⟨p, _, found⟩ := List.exists_of_findSome?_eq_some h
      rw [paramFault?_eq] at found
      split at found
      · cases found
        trivial
      · split at found
        · cases found
          trivial
        · cases found

theorem isEarly_of_localFault {seen : List String} {rest : List (Param × Strategy)}
    (h : f.localFault? settings seen rest = some fault) : fault.obstacle.IsEarly := by
  induction rest generalizing seen with
  | nil => cases h
  | cons x rest ih =>
    unfold localFault? at h
    dsimp only at h
    split at h
    · cases h
      trivial
    · split at h
      · cases h
        trivial
      · exact ih h

theorem isEarly_of_refusal (h : f.refusal? c settings = some fault) : fault.obstacle.IsEarly := by
  unfold refusal? at h
  cases signature : f.signatureFault? settings with
  | some found =>
    rw [signature] at h
    cases h
    exact isEarly_of_signatureFault signature
  | none =>
    rw [signature] at h
    exact isEarly_of_localFault h

end HostFunction

/-- A strategy that the catalog chooses meets one obstacle at most, and a struct meets none. -/
theorem Strategy.obstacle_of_chosen {c : Catalog} {settings : Settings} {function : String}
    {p : Param} {obstacle : Obstacle}
    (h : (c.strategy function p).declare c settings function p = .error obstacle) :
    c.strategy function p = .direct ∧ obstacle = .doublePointer ∨
      (∃ range, c.strategy function p = .mapMemory range) ∧
        obstacle = .mappingNotThroughPointer := by
  cases chosen : c.strategy function p with
  | direct =>
    rw [chosen, declare, declareDirect] at h
    split at h
    · cases h
      exact .inl ⟨rfl, rfl⟩
    · cases h
  | structIn =>
    rw [chosen, declare, declareStruct_of_chosen settings chosen] at h
    cases h
  | mapMemory range =>
    rw [chosen, declare, declareRange] at h
    split at h
    · cases h
      exact .inr ⟨⟨range, rfl⟩, rfl⟩
    · cases h

theorem Catalog.planFunction_strategies (c : Catalog) (f : HostFunction) :
    (c.planFunction f).map (·.strategy) = f.params.map (c.strategy f.name) := by
  unfold planFunction
  rw [List.map_map]
  rfl

namespace Generator

variable {g h : Generator} {f : HostFunction}

/-- The parts of a wrapper's text, where every parameter is published as its entry says. -/
def assembledBy (g : Generator) (f : HostFunction) (entries : List PlanEntry)
    (ds : List Declaration) : String :=
  "// " ++ f.name ++ "\n" ++
  "void " ++ g.settings.wrapperPrefix ++ f.name ++ "(CPU* cpu) \x7b\n" ++
  String.join (ds.map (·.text)) ++
  g.callLine f (ds.map (·.param)) ++
  String.join (List.zipWith (fun e d => e.strategy.publish g.settings f.callStatus d.param)
    entries ds) ++
  g.returnLine f ++
  "\x7d\n"

/-- The wrapper's parameters are declared in turn, and published, as the entries say. -/
def WrapsByPlan (g : Generator) (f : HostFunction) (entries : List PlanEntry) (text : String) :
    Prop :=
  ∃ ds last, DeclaredInTurn f.toSignature g (f.params.zip (entries.map (·.strategy))) ds last ∧
    text = g.assembledBy f entries ds

/-- The function is refused before anything is declared, or its parameters are declared in turn as
the entries say until one cannot be, for the reason that belongs to the entry's strategy. -/
def FailsByPlan (g : Generator) (f : HostFunction) (entries : List PlanEntry)
    (fault : Unsupported) : Prop :=
  (f.refusal? g.catalog g.settings = some fault ∧
    fault.obstacle.message ≠ Obstacle.pointerReason ∧
    fault.obstacle.message ≠ Obstacle.mappingReason) ∨
  ∃ k p e ds last, f.params[k]? = some p ∧ entries[k]? = some e ∧ fault.param = p.name ∧
    DeclaredInTurn f.toSignature g ((f.params.zip (entries.map (·.strategy))).take k) ds last ∧
    (last.declare e.strategy f.toSignature p).result = .error fault ∧
    (e.strategy = .direct ∧ fault.obstacle.message = Obstacle.pointerReason ∨
      (∃ range, e.strategy = .mapMemory range) ∧
        fault.obstacle.message = Obstacle.mappingReason)

theorem assembledBy_plan (g : Generator) (f : HostFunction) (ds : List Declaration) :
    g.assembledBy f (g.catalog.planFunction f) ds = g.assembled f ds := by
  unfold assembledBy assembled Catalog.planFunction
  rw [List.zipWith_map_left]

theorem zip_plan (c : Catalog) (f : HostFunction) :
    f.params.zip ((c.planFunction f).map (·.strategy)) = f.chosen c := by
  rw [Catalog.planFunction_strategies, HostFunction.zip_strategies]

theorem wrapsByPlan {text : String} (complete : (g.emit f).result = .ok text) :
    g.WrapsByPlan f (g.catalog.planFunction f) text := by
  rw [emit_result] at complete
  obtain ⟨declared, rfl⟩ := HostFunction.attempt_eq_ok complete
  have inTurn : DeclaredInTurn f.toSignature g (f.chosen g.catalog) _ _ :=
    declaredInTurn_of_alone (List.forall₂_map_left_iff.2 declared)
  rw [← zip_plan] at inTurn
  exact ⟨_, _, inTurn, (g.wrapperText_eq_assembled f _).trans (g.assembledBy_plan f _).symm⟩

theorem failsByPlan {fault : Unsupported} (failed : (g.emit f).result = .error fault) :
    g.FailsByPlan f (g.catalog.planFunction f) fault := by
  obtain ⟨k, _, declared, ending⟩ := f.attempt_declarations g.catalog g.settings
  rw [emit_result] at failed
  rw [failed] at ending
  rcases ending with ⟨refused, _⟩ | ⟨_, p, obstacle, found, stopped, rfl⟩
  · exact .inl ⟨refused, Obstacle.message_of_isEarly (HostFunction.isEarly_of_refusal refused)⟩
  · obtain ⟨q, ds, last, same, inTurn, fails⟩ := stopsAt_of_declared declared found stopped
    cases found.symm.trans same
    let entry : PlanEntry := ⟨f.name, p.name, g.catalog.strategy f.name p⟩
    refine .inr ⟨k, p, entry, ds, last, found, ?_, rfl, ?_, fails, ?_⟩
    · rw [Catalog.planFunction, List.getElem?_map, found]
      rfl
    · rw [zip_plan]
      exact inTurn
    · rcases Strategy.obstacle_of_chosen stopped with ⟨chosen, rfl⟩ | ⟨chosen, rfl⟩
      · exact .inl ⟨chosen, rfl⟩
      · exact .inr ⟨chosen, rfl⟩

/-- What comes of a function, as a plan for it has it: the strategies of the entries are those that
work on its parameters. -/
def FollowsPlan (g : Generator) (f : HostFunction) (entries : List PlanEntry) : Prop :=
  g.emit f = g.drafted f (entries.map (·.strategy)) ∧
    match (g.emit f).result with
    | .ok text => g.WrapsByPlan f entries text
    | .error fault => g.FailsByPlan f entries fault

theorem followsPlan (same : h.catalog = g.catalog) (f : HostFunction) :
    h.FollowsPlan f (g.catalog.planFunction f) := by
  unfold FollowsPlan
  rw [← same, Catalog.planFunction_strategies]
  refine ⟨(drafted_eq_emit h f).symm, ?_⟩
  cases outcome : (h.emit f).result with
  | ok text => exact wrapsByPlan outcome
  | error fault => exact failsByPlan outcome

/-- The generator that emissions leave. -/
def after (g : Generator) (earlier : List HostFunction) : Generator :=
  (g.run (earlier.map .emit)).1

theorem after_frame (g : Generator) (earlier : List HostFunction) :
    (g.after earlier).catalog = g.catalog ∧ (g.after earlier).settings = g.settings := by
  unfold after
  induction earlier generalizing g with
  | nil => exact ⟨rfl, rfl⟩
  | cons f earlier ih =>
    obtain ⟨catalog, settings⟩ := ih (g.emit f).generator
    exact ⟨catalog.trans (emit_catalog g f), settings.trans (emit_settings g f)⟩

theorem after_cons (g : Generator) (f : HostFunction) (rest : List HostFunction) :
    g.after (f :: rest) = (g.emit f).generator.after rest := rfl

theorem emitAll_generator {policy : Policy} {functions : List HostFunction}
    (h : (g.emitAll policy functions).stopped = none) :
    (g.emitAll policy functions).generator = g.after functions := by
  induction functions generalizing g with
  | nil => rfl
  | cons f rest ih =>
    rw [after_cons]
    cases outcome : (g.emit f).result with
    | ok text =>
      rw [emitAll_of_ok outcome] at h ⊢
      exact ih h
    | error fault =>
      cases policy with
      | skip =>
        rw [emitAll_skip_of_error outcome] at h ⊢
        exact ih h
      | abort =>
        rw [emitAll_abort_of_error outcome] at h
        cases h

/-- A pass that ends early has emitted the function that ended it, and nothing that comes later. -/
theorem emitAll_abort_generator {before rest : List HostFunction} {fault : Unsupported}
    (wrapped : ∀ f ∈ before, g.wraps f = true) (failed : (g.emit f).result = .error fault) :
    (g.emitAll .abort (before ++ f :: rest)).generator = g.after (before ++ [f]) := by
  induction before generalizing g with
  | nil =>
    rw [List.nil_append, emitAll_abort_of_error failed]
    rfl
  | cons first before ih =>
    obtain ⟨text, outcome⟩ := ok_of_wraps (wrapped first List.mem_cons_self)
    have others : ∀ h ∈ before, (g.emit first).generator.wraps h = true := by
      rw [wraps_emit]
      exact fun h member => wrapped h (List.mem_cons_of_mem _ member)
    rw [List.cons_append, emitAll_of_ok outcome]
    apply ih others
    rw [emit_result_congr (emit_catalog g first) (emit_settings g first)]
    exact failed

/-- Functions taken up one after another, each by the generator that those before it left, and what
came of each of them, which is what the plan has for it. -/
def GoesByPlan (g : Generator) (outcomes : List (HostFunction × Except Unsupported String)) :
    Prop :=
  ∀ earlier f outcome rest, outcomes = earlier ++ (f, outcome) :: rest →
    ((g.after (earlier.map (·.1))).emit f).result = outcome ∧
      (g.after (earlier.map (·.1))).FollowsPlan f (g.catalog.planFunction f)

/-- A pass takes up all functions in the order of their names, or where it may end early those up to
the first that cannot be wrapped, and gives what comes of each of them by the plan. -/
def PassFollowsPlan (g : Generator) (policy : Policy) (functions : List HostFunction) : Prop :=
  ∃ outcomes, g.GoesByPlan outcomes ∧
    (g.generate policy functions).generator = g.after (outcomes.map (·.1)) ∧
    match (g.generate policy functions).result with
    | .ok thunks =>
      sortByName functions = outcomes.map (·.1) ∧
      thunks.emitted = outcomes.filterMap (fun x => x.2.toOption.map fun _ => x.1.name) ∧
      thunks.code = fileHeader ++
        String.join (outcomes.filterMap fun x => x.2.toOption.map (· ++ "\n")) ∧
      thunks.skipped = outcomes.filterMap (fun x =>
        match x.2 with
        | .ok _ => none
        | .error fault => some fault) ∧
      (policy = .abort → thunks.skipped = [])
    | .error fault =>
      policy = .abort ∧ ∃ earlier failing rest,
        sortByName functions = outcomes.map (·.1) ++ rest ∧
        outcomes = earlier ++ [(failing, .error fault)] ∧
        ∀ x ∈ earlier, x.2.isOk = true

def outcomes (g : Generator) (functions : List HostFunction) :
    List (HostFunction × Except Unsupported String) :=
  functions.map fun f => (f, (g.emit f).result)

theorem goesByPlan (g : Generator) (functions : List HostFunction) :
    g.GoesByPlan (g.outcomes functions) := by
  intro earlier f outcome rest split
  obtain ⟨before, others, rfl, taken, turn⟩ := List.map_eq_append_iff.1 split
  obtain ⟨_, _, rfl, same, _⟩ := List.map_eq_cons_iff.1 turn
  cases same
  obtain ⟨catalog, settings⟩ := g.after_frame (earlier.map (·.1))
  exact ⟨emit_result_congr catalog settings, followsPlan catalog _⟩

theorem outcomes_functions (g : Generator) (functions : List HostFunction) :
    (g.outcomes functions).map (·.1) = functions := by
  simp [outcomes, Function.comp_def]

theorem names_outcomes (g : Generator) (functions : List HostFunction) :
    (g.outcomes functions).filterMap (fun x => x.2.toOption.map fun _ => x.1.name) =
      (functions.filter g.wraps).map (·.name) := by
  unfold outcomes
  induction functions with
  | nil => rfl
  | cons f rest ih =>
    rw [List.map_cons, List.filterMap_cons, ih]
    cases outcome : (g.emit f).result with
    | ok text => simp [wraps_of_ok outcome, Except.toOption]
    | error fault => simp [wraps_of_error outcome, Except.toOption]

theorem passFollowsPlan (g : Generator) (policy : Policy) (functions : List HostFunction) :
    g.PassFollowsPlan policy functions := by
  unfold PassFollowsPlan
  rw [generate_result]
  cases stopped : (g.emitAll policy (sortByName functions)).stopped with
  | none =>
    obtain ⟨all, wrapped⟩ := reached_of_not_stopped stopped
    rw [all]
    refine ⟨_, g.goesByPlan (sortByName functions), ?_, (outcomes_functions ..).symm, ?_, ?_, ?_, ?_⟩
    · rw [outcomes_functions]
      exact emitAll_generator stopped
    · rw [emitted_ofHandled, names_outcomes]
    · rw [code_ofHandled, outcomes, List.filterMap_map]
      rfl
    · rw [skipped_ofHandled, outcomes, List.filterMap_map]
      rfl
    · intro abort
      rw [skipped_ofHandled, List.filterMap_eq_nil_iff]
      exact fun f member => fault?_eq_none_iff.2 (wrapped abort f member)
  | some fault =>
    obtain ⟨abort, failing, rest, split, failed⟩ := stopped_at_failing stopped
    have wrapped : ∀ f ∈ g.wrapped policy (sortByName functions), g.wraps f = true :=
      fun f among => (List.mem_filter.1 among).2
    generalize g.wrapped policy (sortByName functions) = before at split wrapped
    refine ⟨_, g.goesByPlan (before ++ [failing]), ?_, abort, g.outcomes before, failing, rest,
      ?_, ?_, ?_⟩
    · rw [outcomes_functions, generate, abort, split]
      exact emitAll_abort_generator wrapped failed
    · rw [outcomes_functions, List.append_assoc]
      exact split
    · simp [outcomes, failed]
    · intro x member
      obtain ⟨f, among, rfl⟩ := List.mem_map.1 member
      exact wrapped f among

theorem plan_run (g : Generator) {ops : List Operation} (table : ∀ op ∈ ops, op.KeepsTable)
    (functions : List HostFunction) :
    (g.run ops).1.catalog.plan functions = g.catalog.plan functions := by
  rw [run_catalog g table]

end Generator

/-- The entries for a function are for its parameters, one by one. -/
theorem Catalog.planFunction_params (c : Catalog) (f : HostFunction) :
    (c.planFunction f).map (fun e => (e.function, e.param)) =
      f.params.map fun p => (f.name, p.name) := by
  unfold planFunction
  rw [List.map_map]
  rfl

/--
A plan and a generation from one configuration file have the same input. The plan lists the
parameters of the functions in their order and changes nothing; the generation goes on with a pass
in which each wrapper, and each failure, is as the plan's entries for its function say. Neither the
plan nor what comes of a function depends on what was done under the same table before.
-/
theorem plan_tells_generation (path : String) (events : List Event) (fs : FileSystem) :
    (Run.plan path).on events fs = ⟨(fs.inputs path).map Inputs.plan, events, fs⟩ ∧
      (match fs.inputs path with
        | .error e =>
          ((Run.generateFrom path).on events fs).result = .error e ∧
            ((Run.generateFrom path).on events fs).files = fs
        | .ok i =>
          (Run.generateFrom path).on events fs =
            (Run.finish (Path.join (Path.directoryOf path) i.config.paths.out) i.generation).on
              (events ++ i.beginning (Path.directoryOf path)) fs) ∧
      ∀ i : Inputs,
        i.plan = (i.descriptors.functions.map i.generator.catalog.planFunction).flatten ∧
        (∀ f, (i.generator.catalog.planFunction f).map (fun e => (e.function, e.param)) =
          f.params.map fun p => (f.name, p.name)) ∧
        i.generator.PassFollowsPlan i.config.marshalling.onUnsupported i.descriptors.functions ∧
        ∀ ops : List Operation, (∀ op ∈ ops, op.KeepsTable) →
          (∀ functions, (i.generator.run ops).1.catalog.plan functions =
            i.generator.catalog.plan functions) ∧
          ∀ f, (i.generator.run ops).1.FollowsPlan f (i.generator.catalog.planFunction f) := by
  refine ⟨Run.on_plan path events fs, Run.on_generateFrom path events fs, fun i => ?_⟩
  refine ⟨List.flatMap_def .., i.generator.catalog.planFunction_params,
    i.generator.passFollowsPlan _ _, fun ops table => ⟨?_, ?_⟩⟩
  · exact i.generator.plan_run table
  · exact Generator.followsPlan (i.generator.run_catalog table)

def mappingRange : MappedRange := { handle := "info->memory", size := "info->size" }

/-- A function that can be wrapped, and one that fails after it has staged a type. -/
def mappingInputs : Inputs :=
  { config :=
      { paths := { descriptors := "vk.json", out := "gen" }
        marshalling := { mappings := [
          { mappingRange with function := "vkMapMemory2", param := "ppData" }] } }
    descriptors :=
      { types := [⟨"VkDevice", .handle⟩, ⟨"VkMemoryMapInfo", .struct⟩, ⟨"VkSubmitInfo", .struct⟩]
        functions := [mapMemory, failsLate] } }

def operationsBefore : List Operation :=
  [.emit mapMemory, .emit failsLate, .mark "VkDevice", .stage "VkSubmitInfo", .commit,
    .configure { statusLocal := "device" }, .resetWarning]

theorem sortByName_mappingInputs :
    sortByName mappingInputs.descriptors.functions = [failsLate, mapMemory] := by
  have sorted : sortByName [failsLate, mapMemory] = [failsLate, mapMemory] :=
    List.mergeSort_of_pairwise (by decide)
  rw [← sorted]
  exact sortByName_eq_of_perm (.swap ..) (by decide)

theorem plan_tells_generation_mappingInputs :
    (∀ op ∈ operationsBefore, op.KeepsTable) ∧
    mappingInputs.plan.map (·.strategy) =
      [.direct, .structIn, .mapMemory mappingRange, .structIn, .direct] ∧
    (mappingInputs.generator.run operationsBefore).1.catalog.plan
      mappingInputs.descriptors.functions = mappingInputs.plan ∧
    ((mappingInputs.generator.run operationsBefore).1.emit failsLate).result.toOption = none ∧
    (mappingInputs.generator.run operationsBefore).1.FollowsPlan failsLate
      (mappingInputs.generator.catalog.planFunction failsLate) ∧
    ∃ thunks text fault,
      (mappingInputs.generator.generate .skip mappingInputs.descriptors.functions).result =
        .ok thunks ∧
      thunks.emitted = ["vkMapMemory2"] ∧
      thunks.code = fileHeader ++ (text ++ "\n") ∧
      thunks.skipped = [fault] ∧
      ((mappingInputs.generator.after [failsLate]).drafted mapMemory
        [.direct, .structIn, .mapMemory mappingRange]).result = .ok text ∧
      (mappingInputs.generator.drafted failsLate [.structIn, .direct]).result = .error fault := by
  have table : ∀ op ∈ operationsBefore, op.KeepsTable := by
    simp [operationsBefore, Operation.KeepsTable]
  obtain ⟨_, _, told⟩ := plan_tells_generation "vkthunk.config.toml" [] {}
  obtain ⟨_, _, ⟨outcomes, goes, _, passed⟩, later⟩ := told mappingInputs
  obtain ⟨plan, follows⟩ := later operationsBefore table
  refine ⟨table, by decide, plan _, by decide, follows failsLate, ?_⟩
  rw [sortByName_mappingInputs, show mappingInputs.config.marshalling.onUnsupported = .skip from rfl]
    at passed
  cases result :
      (mappingInputs.generator.generate .skip mappingInputs.descriptors.functions).result with
  | error fault =>
    rw [result] at passed
    cases passed.1
  | ok thunks =>
    rw [result] at passed
    obtain ⟨taken, emitted, code, skipped, _⟩ := passed
    obtain ⟨⟨_, first⟩, _, rfl, rfl, others⟩ := List.map_eq_cons_iff.1 taken.symm
    obtain ⟨⟨_, second⟩, _, rfl, rfl, none_left⟩ := List.map_eq_cons_iff.1 others
    cases List.map_eq_nil_iff.1 none_left
    obtain ⟨failed, worked, _⟩ := goes [] _ _ _ rfl
    obtain ⟨wrapped, also, _⟩ := goes [_] _ _ _ rfl
    cases first with
    | ok text =>
      have refused : (mappingInputs.generator.emit failsLate).result.isOk = false := by decide
      cases refused.symm.trans (congrArg Except.isOk failed)
    | error fault =>
      cases second with
      | error _ =>
        have accepted :
            ((mappingInputs.generator.after [failsLate]).emit mapMemory).result.isOk = true := by
          decide
        cases accepted.symm.trans (congrArg Except.isOk wrapped)
      | ok text =>
        rw [worked] at failed
        rw [also] at wrapped
        have listed : thunks.code = fileHeader ++ (text ++ "\n") := by
          simpa [Except.toOption] using code
        exact ⟨thunks, text, fault, rfl, emitted, listed, skipped, wrapped, failed⟩

end HostCall
