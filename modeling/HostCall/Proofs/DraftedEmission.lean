import HostCall.Proofs.Drafting

/-!
A wrapper drafted in place. The strategies of a function work one after another on one generator,
one text and the function's own parameters: all of them before the native call, which passes what
they left in the parameters, and all of them again after it. This comes to what an emission puts
together from declarations and publications. As no strategy gets in another one's way, the text
consists of what each of them adds to an empty text.
-/
namespace HostCall

/-- What the strategies of a function work on: a generator, the text so far and all parameters. -/
structure Sheet where
  generator : Generator
  text : String := ""
  params : List Param
  events : List Event := []

/-- What a strategy sees of a sheet when it is the turn of one parameter. -/
def Sheet.draft (s : Sheet) (p : Param) : Draft :=
  { generator := s.generator, text := s.text, param := p, events := s.events }

def Draft.sheet (w : Draft) (params : List Param) : Sheet :=
  { generator := w.generator, text := w.text, params, events := w.events }

/-- Work on a sheet that may be given up. What was done before that stays done. -/
abbrev Emitting := ExceptT Unsupported (StateM Sheet)

namespace Emitting

def on {α : Type} (work : Emitting α) (s : Sheet) : Except Unsupported α × Sheet := work.run.run s

/-- Lets a strategy work on the parameter at an index. The parameter is changed in its place, also
where the strategy gives up. -/
def visit (work : Drafting Unit) (k : Nat) : Emitting Unit := do
  let s ← get
  match s.params[k]? with
  | none => pure ()
  | some p =>
    let worked := work.on (s.draft p)
    set (worked.draft.sheet (s.params.set k worked.draft.param))
    liftExcept worked.result

/-- Lets strategies work on the parameters in order, from an index on. -/
def pass (hook : Strategy → Drafting Unit) : Nat → List Strategy → Emitting Unit
  | _, [] => pure ()
  | k, s :: rest => do
    visit (hook s) k
    pass hook (k + 1) rest

end Emitting

namespace HostFunction

open Emitting

/-- Refuses a function with which something is wrong before anything is done for it. -/
def draftAdmission (f : HostFunction) (strategies : List Strategy) : Emitting Unit := do
  let settings := (← get).generator.settings
  match f.signatureFault? settings <|> f.localFault? settings [] (f.params.zip strategies) with
  | some fault => throw fault
  | none => pure ()

/-- Calls the native function with the parameters as they are by now. -/
def draftCall (f : HostFunction) : Emitting Unit :=
  modify fun s =>
    { s with text := s.text ++ bodyLine 1 (f.nativeCall s.generator.settings s.params) }

def draftReturn (f : HostFunction) : Emitting Unit :=
  modify fun s =>
    if f.returnType.isSome then
      let settings := s.generator.settings
      { s with text := s.text ++ bodyLine 1 (settings.returnStatement settings.statusLocal) }
    else s

def draftFrame (f : HostFunction) : Emitting String := do
  modify fun s => { s with events := s.events ++ [.emitted f.name s.params.length] }
  let s ← get
  return "// " ++ f.name ++ "\n" ++
    "void " ++ s.generator.settings.wrapperPrefix ++ f.name ++ "(CPU* cpu) \x7b\n" ++
    s.text ++ "\x7d\n"

/-- Drafts the wrapper of a function with a strategy for each parameter. -/
def draftWrapper (f : HostFunction) (strategies : List Strategy) : Emitting String := do
  f.draftAdmission strategies
  pass (·.before f.toSignature) 0 strategies
  f.draftCall
  pass (·.after f.toSignature) 0 strategies
  f.draftReturn
  f.draftFrame

end HostFunction

/-- Drafts the wrapper of a function and keeps its requests if it is complete. -/
def Generator.drafted (g : Generator) (f : HostFunction) (strategies : List Strategy) : Emission :=
  let (result, s) := (f.draftWrapper strategies).on { generator := g, params := f.params }
  let function := { f with params := s.params }
  match result with
  | .error fault =>
    { generator := s.generator.discard, function, result := .error fault, events := s.events }
  | .ok text =>
    let (g, unregistered) := s.generator.commit
    { generator := g, function, result := .ok text, events := s.events ++ unregistered }

namespace Emitting

variable {α β : Type} {s left : Sheet}

theorem on_pure (a : α) (s : Sheet) : (pure a : Emitting α).on s = (.ok a, s) := rfl

theorem on_modify (change : Sheet → Sheet) (s : Sheet) :
    (modify change : Emitting Unit).on s = (.ok (), change s) := rfl

theorem on_bind_of_ok {work : Emitting α} {next : α → Emitting β} {a : α}
    (h : work.on s = (.ok a, left)) : (work >>= next).on s = (next a).on left := by
  unfold on at h ⊢
  rw [ExceptT.run_bind, StateT.run_bind, h]
  rfl

theorem on_bind_of_error {work : Emitting α} {next : α → Emitting β} {fault : Unsupported}
    (h : work.on s = (.error fault, left)) : (work >>= next).on s = (.error fault, left) := by
  unfold on at h ⊢
  rw [ExceptT.run_bind, StateT.run_bind, h]
  rfl

/-- The parameter whose turn it is comes right after those that are done. -/
theorem on_visit {done todo : List Param} {p : Param} (work : Drafting Unit)
    (params : s.params = done ++ p :: todo) :
    (visit work done.length).on s =
      ((work.on (s.draft p)).result,
        (work.on (s.draft p)).draft.sheet (done ++ (work.on (s.draft p)).draft.param :: todo)) := by
  have found : s.params[done.length]? = some p := by simp [params]
  have put (q : Param) : s.params.set done.length q = done ++ q :: todo := by simp [params]
  unfold visit
  rw [on_bind_of_ok (rfl : (get : Emitting Sheet).on s = _)]
  simp only [found, put]
  rw [on_bind_of_ok (rfl : (set _ : Emitting PUnit).on s = _)]
  cases (work.on (s.draft p)).result <;> rfl

section Turn

variable {f : HostFunction} {strategy : Strategy} {done todo : List Param} {p : Param}
  (params : s.params = done ++ p :: todo)

include params

theorem on_visit_before_of_error {obstacle : Obstacle}
    (h : strategy.declare s.generator.catalog s.generator.settings f.name p = .error obstacle) :
    (visit (strategy.before f.toSignature) done.length).on s =
      (.error (f.unsupported p.name obstacle), s) := by
  rw [on_visit _ params, Strategy.on_before, Draft.declare_of_error h]
  simp only [Draft.sheet, Sheet.draft, ← params]
  rfl

theorem on_visit_before_of_ok {d : Declaration}
    (h : strategy.declare s.generator.catalog s.generator.settings f.name p = .ok d) :
    (visit (strategy.before f.toSignature) done.length).on s =
      (.ok (),
        { generator := (s.generator.record f.name d).1
          text := s.text ++ d.text
          params := done ++ d.param :: todo
          events := s.events ++ (s.generator.record f.name d).2 }) := by
  rw [on_visit _ params, Strategy.on_before, Draft.declare_of_ok h]
  rfl

theorem on_visit_after :
    (visit (strategy.after f.toSignature) done.length).on s =
      (.ok (),
        { s with text := s.text ++ strategy.publish s.generator.settings f.callStatus p }) := by
  rw [on_visit _ params, Strategy.on_after]
  simp only [Draft.publish, Draft.sheet, Sheet.draft, ← params]

end Turn

/-- Before the call the parameters that are still to do are declared as far as they can be. -/
theorem on_pass_before (f : HostFunction) (rest : List (Param × Strategy)) (done : List Param)
    (s : Sheet) (params : s.params = done ++ rest.map (·.1)) :
    (pass (·.before f.toSignature) done.length (rest.map (·.2))).on s =
      let declared := f.declareAll s.generator.catalog s.generator.settings rest
      (match declared.2 with
        | some fault => .error fault
        | none => .ok (),
        { generator := (s.generator.recordAll f.name declared.1).1
          text := s.text ++ String.join (declared.1.map (·.text))
          params := done ++ (declared.1.map (·.param) ++ (rest.map (·.1)).drop declared.1.length)
          events := s.events ++ (s.generator.recordAll f.name declared.1).2 }) := by
  -- The parameters that are done stand in front of those to do, so the index moves along with them.
  induction rest generalizing done s with
  | nil =>
    obtain ⟨g, text, _, events⟩ := s
    cases params
    simp [pass, on_pure, HostFunction.declareAll, Generator.recordAll]
  | cons x rest ih =>
    obtain ⟨p, strategy⟩ := x
    rw [List.map_cons] at params
    simp only [List.map_cons, pass, HostFunction.declareAll]
    cases outcome : strategy.declare s.generator.catalog s.generator.settings f.name p with
    | error obstacle =>
      rw [on_bind_of_error (on_visit_before_of_error params outcome)]
      simp [Generator.recordAll, ← params]
    | ok d =>
      have frame := Generator.record_frame s.generator f.name d
      have next : done.length + 1 = (done ++ [d.param]).length := by simp
      rw [on_bind_of_ok (on_visit_before_of_ok params outcome), next, ih _ _ (by simp)]
      -- What was recorded for this parameter changes nothing that the others are declared by.
      simp [frame.1, frame.2, Generator.recordAll, String.join_cons, String.append_assoc]

/-- After the call every strategy publishes, and none changes a parameter. -/
theorem on_pass_after (f : HostFunction) (rest : List (Param × Strategy)) (done : List Param)
    (s : Sheet) (params : s.params = done ++ rest.map (·.1)) :
    (pass (·.after f.toSignature) done.length (rest.map (·.2))).on s =
      (.ok (),
        { s with
          text := s.text ++ String.join (rest.map fun x =>
            x.2.publish s.generator.settings f.callStatus x.1) }) := by
  induction rest generalizing done s with
  | nil => simp [pass, on_pure]
  | cons x rest ih =>
    obtain ⟨p, strategy⟩ := x
    rw [List.map_cons] at params
    simp only [List.map_cons, pass]
    have next : done.length + 1 = (done ++ [p]).length := by simp
    rw [on_bind_of_ok (on_visit_after params), next, ih _ _ (by simp [params])]
    simp [String.join_cons, String.append_assoc]

end Emitting

namespace HostFunction

open Emitting

theorem on_draftAdmission (f : HostFunction) (s : Sheet) :
    (f.draftAdmission (f.params.map (s.generator.catalog.strategy f.name))).on s =
      (match f.refusal? s.generator.catalog s.generator.settings with
        | some fault => .error fault
        | none => .ok (), s) := by
  unfold draftAdmission
  rw [on_bind_of_ok (rfl : (get : Emitting Sheet).on s = _), zip_strategies]
  change Emitting.on (match f.refusal? _ _ with
    | some fault => throw fault
    | none => pure ()) s = _
  cases f.refusal? s.generator.catalog s.generator.settings <;> rfl

theorem on_draftCall (f : HostFunction) (s : Sheet) :
    f.draftCall.on s =
      (.ok (),
        { s with text := s.text ++ bodyLine 1 (f.nativeCall s.generator.settings s.params) }) := rfl

theorem on_draftReturn (f : HostFunction) (s : Sheet) :
    f.draftReturn.on s =
      (.ok (),
        { s with text := s.text ++
            if f.returnType.isSome then
              bodyLine 1 (s.generator.settings.returnStatement s.generator.settings.statusLocal)
            else "" }) := by
  unfold draftReturn
  rw [on_modify]
  cases f.returnType.isSome <;> simp

theorem on_draftFrame (f : HostFunction) (s : Sheet) :
    f.draftFrame.on s =
      (.ok ("// " ++ f.name ++ "\n" ++
          "void " ++ s.generator.settings.wrapperPrefix ++ f.name ++ "(CPU* cpu) \x7b\n" ++
          s.text ++ "\x7d\n"),
        { s with events := s.events ++ [.emitted f.name s.params.length] }) := rfl

/-- The pass before the call, over all parameters as they are declared. -/
theorem on_first_pass (g : Generator) (f : HostFunction) :
    (pass (·.before f.toSignature) 0 (f.params.map (g.catalog.strategy f.name))).on
        { generator := g, params := f.params } =
      let declared := f.declareAll g.catalog g.settings (f.chosen g.catalog)
      (match declared.2 with
        | some fault => .error fault
        | none => .ok (),
        { generator := (g.recordAll f.name declared.1).1
          text := String.join (declared.1.map (·.text))
          params := declared.1.map (·.param) ++ f.params.drop declared.1.length
          events := (g.recordAll f.name declared.1).2 }) := by
  have params : (f.chosen g.catalog).map (·.1) = f.params := by simp [chosen, Function.comp_def]
  have strategies : (f.chosen g.catalog).map (·.2) = f.params.map (g.catalog.strategy f.name) := by
    simp [chosen]
  have passed := on_pass_before f (f.chosen g.catalog) [] { generator := g, params := f.params }
    (by simp [params])
  simpa [params, strategies] using passed

/-- The pass after the call, over the parameters as the one before it left them. -/
theorem on_second_pass (f : HostFunction) {s : Sheet} {strategies : List Strategy}
    (length : s.params.length = strategies.length) :
    (pass (·.after f.toSignature) 0 strategies).on s =
      (.ok (),
        { s with
          text := s.text ++ String.join (List.zipWith
            (fun p strategy => strategy.publish s.generator.settings f.callStatus p)
            s.params strategies) }) := by
  have params : (s.params.zip strategies).map (·.1) = s.params :=
    List.map_fst_zip (Nat.le_of_eq length)
  have same : (s.params.zip strategies).map (·.2) = strategies :=
    List.map_snd_zip (Nat.le_of_eq length.symm)
  have passed := on_pass_after f (s.params.zip strategies) [] s (by simp [params])
  rw [List.length_nil, same] at passed
  rw [passed, List.zip, List.map_zipWith]

/-- A drafted wrapper comes out as an attempt does, and leaves what its declarations do. -/
theorem on_draftWrapper (g : Generator) (f : HostFunction) :
    let a := f.attempt g.catalog g.settings
    ∃ text, (f.draftWrapper (f.params.map (g.catalog.strategy f.name))).on
        { generator := g, params := f.params } =
      (a.result,
        { generator := (g.recordAll f.name a.declarations).1
          text
          params := (a.function f).params
          events := (g.recordAll f.name a.declarations).2 ++
            match a.result with
            | .ok _ => [.emitted f.name f.params.length]
            | .error _ => [] }) := by
  have admission := f.on_draftAdmission { generator := g, params := f.params }
  have declared := f.on_first_pass g
  unfold draftWrapper
  rcases f.attempt_cases g.catalog g.settings with
    ⟨fault, refused, attempted⟩ | ⟨ds, fault, admitted, outcome, attempted⟩ |
      ⟨ds, admitted, outcome, attempted⟩
  · simp only [refused] at admission
    rw [on_bind_of_error admission, attempted]
    exact ⟨_, rfl⟩
  · simp only [admitted] at admission
    simp only [outcome] at declared
    rw [on_bind_of_ok admission, on_bind_of_error declared, attempted]
    simp only [List.append_nil]
    exact ⟨_, rfl⟩
  · simp only [admitted] at admission
    simp only [outcome] at declared
    have length : ds.length = f.params.length :=
      (List.forall₂_map_left_iff.1 (declareAll_complete outcome)).length_eq.symm
    have settings : (g.recordAll f.name ds).1.settings = g.settings := by
      rw [Generator.recordAll_generator]
    have received : ds.map (·.param) ++ f.params.drop ds.length = ds.map (·.param) := by
      rw [length, List.drop_length, List.append_nil]
    rw [received] at declared
    rw [on_bind_of_ok admission, on_bind_of_ok declared, on_bind_of_ok (f.on_draftCall _),
      on_bind_of_ok (f.on_second_pass (by simp [length])), on_bind_of_ok (f.on_draftReturn _),
      f.on_draftFrame, attempted]
    unfold wrapperText Attempt.function
    simp only [settings, String.append_assoc, List.length_map, received]
    rw [length]
    exact ⟨_, rfl⟩

end HostFunction

namespace Generator

variable {g : Generator} {f : HostFunction}

/-- An emission is what comes of drafting the wrapper with the strategies that the catalog chooses
for the parameters as they are declared. -/
theorem drafted_eq_emit (g : Generator) (f : HostFunction) :
    g.drafted f (f.params.map (g.catalog.strategy f.name)) = g.emit f := by
  obtain ⟨text, drafted⟩ := f.on_draftWrapper g
  unfold Generator.drafted emit
  rw [drafted]
  cases outcome : (f.attempt g.catalog g.settings).result with
  | error fault => simp [outcome, Attempt.function]
  | ok text => simp [outcome, Attempt.function]

/-- The strategy of a parameter at work before the call on the parameter alone, in an empty text. -/
def beforeAlone (g : Generator) (f : HostFunction) (p : Param) : Drafted :=
  ((g.catalog.strategy f.name p).before f.toSignature).on { generator := g, text := "", param := p }

/-- The strategy of a parameter at work after the call on the parameter as it had left it alone, in
an empty text again. -/
def afterAlone (g : Generator) (f : HostFunction) (p : Param) : Drafted :=
  ((g.catalog.strategy f.name p).after f.toSignature).on { (g.beforeAlone f p).draft with text := "" }

section Alone

variable {p : Param} {d : Declaration}
  (declared : (g.catalog.strategy f.name p).declare g.catalog g.settings f.name p = .ok d)

include declared

theorem beforeAlone_of_declared :
    g.beforeAlone f p =
      ⟨.ok (), ⟨(g.record f.name d).1, d.text, d.param, (g.record f.name d).2⟩⟩ := by
  unfold beforeAlone
  rw [Strategy.on_before, Draft.declare_of_ok declared]
  simp

theorem afterAlone_of_declared :
    g.afterAlone f p =
      ⟨.ok (), ⟨(g.record f.name d).1,
        (g.catalog.strategy f.name p).publish g.settings f.callStatus d.param, d.param,
        (g.record f.name d).2⟩⟩ := by
  unfold afterAlone
  rw [beforeAlone_of_declared declared, Strategy.on_after, Draft.publish]
  simp [(record_frame g f.name d).2]

end Alone

theorem pieces_of_declared {params : List Param} {ds : List Declaration}
    (declared : List.Forall₂
      (fun p d => (g.catalog.strategy f.name p).declare g.catalog g.settings f.name p = .ok d)
      params ds) :
    params.map (fun p => (g.beforeAlone f p).draft.param) = ds.map (·.param) ∧
      params.map (fun p => (g.beforeAlone f p).draft.text) = ds.map (·.text) ∧
      params.map (fun p => (g.afterAlone f p).draft.text) =
        List.zipWith (fun p d =>
          (g.catalog.strategy f.name p).publish g.settings f.callStatus d.param) params ds := by
  induction declared with
  | nil => exact ⟨rfl, rfl, rfl⟩
  | cons first _ ih =>
    obtain ⟨params, before, after⟩ := ih
    simp only [List.map_cons, List.zipWith_cons_cons, beforeAlone_of_declared first,
      afterAlone_of_declared first, params, before, after, and_self]

/--
The text of a complete wrapper. It is drafted on one generator, one text and the function's own
parameters, and yet it consists of what every strategy adds to an empty text when it works alone,
before the call on the parameter as it was declared and after the call on what it left of it.
-/
theorem emit_text_assembled (g : Generator) (f : HostFunction) :
    g.emit f = g.drafted f (f.params.map (g.catalog.strategy f.name)) ∧
    ∀ text, (g.emit f).result = .ok text →
      let received := f.params.map fun p => (g.beforeAlone f p).draft.param
      (∀ p ∈ f.params, (g.beforeAlone f p).result = .ok () ∧ (g.afterAlone f p).result = .ok ()) ∧
      (g.emit f).function.params = received ∧
      text =
        "// " ++ f.name ++ "\n" ++
        "void " ++ g.settings.wrapperPrefix ++ f.name ++ "(CPU* cpu) \x7b\n" ++
        String.join (f.params.map fun p => (g.beforeAlone f p).draft.text) ++
        g.callLine f received ++
        String.join (f.params.map fun p => (g.afterAlone f p).draft.text) ++
        g.returnLine f ++
        "\x7d\n" ∧
      ∀ p ∈ f.params, (g.afterAlone f p).draft.text =
        g.publication f (g.beforeAlone f p).draft.param.name (g.catalog.strategy f.name p) := by
  refine ⟨(drafted_eq_emit g f).symm, fun text complete => ?_⟩
  have params : (g.emit f).function.params =
      (f.attempt g.catalog g.settings).declarations.map (·.param) ++
        f.params.drop (f.attempt g.catalog g.settings).declarations.length := by
    rw [emit_function]
    rfl
  rw [emit_result] at complete
  obtain ⟨declared, rfl⟩ := HostFunction.attempt_eq_ok complete
  generalize (f.attempt g.catalog g.settings).declarations = ds at declared params
  obtain ⟨received, before, after⟩ := pieces_of_declared declared
  refine ⟨?_, ?_, ?_, ?_⟩
  · intro p member
    obtain ⟨d, _, first⟩ := exists_of_forall₂ declared member
    rw [beforeAlone_of_declared first, afterAlone_of_declared first]
    exact ⟨rfl, rfl⟩
  · rw [params, received, ← declared.length_eq, List.drop_length, List.append_nil]
  · rw [received, before, after]
    exact wrapperText_eq_assembled g f ds
  · intro p member
    obtain ⟨d, _, first⟩ := exists_of_forall₂ declared member
    rw [beforeAlone_of_declared first, afterAlone_of_declared first]
    exact publish_eq_publication g f d.param _

end Generator

theorem emit_text_assembled_mapMemory :
    ∃ text, (mapper.emit mapMemory).result = .ok text ∧
      text =
        "// vkMapMemory2\n" ++ "void boxed_vkMapMemory2(CPU* cpu) \x7b\n" ++
        String.join (mapMemory.params.map fun p => (mapper.beforeAlone mapMemory p).draft.text) ++
        "    VkResult result = pBoxedInfo->pvkMapMemory2(device, info, &pData);\n" ++
        String.join (mapMemory.params.map fun p => (mapper.afterAlone mapMemory p).draft.text) ++
        "    EAX = result;\n" ++ "\x7d\n" ∧
      mapMemory.params.map (fun p => (mapper.afterAlone mapMemory p).draft.text) =
        ["", "",
          "    if (result == VK_SUCCESS) \x7b\n" ++
          "        cpu->memory->writed(ARG3, mapVkMemory(info->memory, pData, info->size));\n" ++
          "    \x7d\n"] := by
  have wrapped : (mapper.emit mapMemory).result.isOk = true := by decide
  cases complete : (mapper.emit mapMemory).result with
  | error fault =>
    rw [complete] at wrapped
    cases wrapped
  | ok text =>
    obtain ⟨_, assembled⟩ := Generator.emit_text_assembled mapper mapMemory
    obtain ⟨_, _, parts, _⟩ := assembled text complete
    exact ⟨text, rfl, parts, by decide +kernel⟩

end HostCall
