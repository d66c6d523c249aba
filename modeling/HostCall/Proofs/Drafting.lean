import HostCall.Proofs.Rollback

/-!
Strategies at work. A strategy works on a draft: line by line it adds to the text that is there, it
changes the parameter in place, and it leaves its requests and warnings with the generator. All of
that comes to what the strategy's declaration and publication say at once, so a strategy only ever
adds to the text, what it adds is the same in every draft, and where it refuses it has done nothing.
-/
namespace HostCall

/-- What a strategy works on: a generator, the text so far and the parameter at hand. -/
structure Draft where
  generator : Generator
  text : String
  param : Param
  events : List Event := []

/-- Work on a draft that may be given up. What was done before that stays done. -/
abbrev Drafting := ExceptT Unsupported (StateM Draft)

structure Drafted where
  result : Except Unsupported Unit
  draft : Draft

namespace Drafting

/-- Adds a line to the text. -/
def line (depth : Nat) (statement : String) : Drafting Unit :=
  modify fun w => { w with text := w.text ++ bodyLine depth statement }

def refuse (function : Signature) (obstacle : Obstacle) : Drafting Unit := do
  throw { function := function.name, param := (← get).param.name, obstacle }

/-- Gives the parameter another local, by whose address it is passed. -/
def passByAddress (placeholder : String) : Drafting Unit :=
  modify fun w =>
    { w with param := { w.param with name := placeholder, hostValue := addressOf placeholder } }

def request (type : String) : Drafting Unit :=
  modify fun w => { w with generator := w.generator.stage type }

/-- Reports that null is passed for the parameter, unless such a thing was reported before. -/
def warn (function : Signature) : Drafting Unit :=
  modify fun w =>
    if w.generator.warned then w
    else
      { w with
        generator := { w.generator with warned := true }
        events := w.events ++ [.nullPassed w.param.type function.name w.param.name] }

def on (work : Drafting Unit) (w : Draft) : Drafted :=
  let (result, draft) := work.run.run w
  { result, draft }

end Drafting

namespace Strategy

open Drafting

def draftDirect (function : Signature) : Drafting Unit := do
  let p := (← get).param
  if p.isDoublePointer then refuse function .doublePointer
  else
    let type := typeSpelling p.type p.isPointer
    line 1 (type ++ " " ++ p.name ++ " = (" ++ type ++ ")" ++ p.guestValue ++ ";")

def draftNull (function : Signature) : Drafting Unit := do
  warn function
  let w ← get
  let p := w.param
  let flag := shownFlagName p.name
  let report := Literal.escape (function.name ++ ":" ++ p.type ++ " not implemented")
  line 1 ("static bool " ++ flag ++ ";")
  line 1 ("if (!" ++ flag ++ " && " ++ p.guestValue ++ ") \x7b")
  line 2 (w.generator.settings.logFunction ++ "(\"" ++ report ++ "\");")
  line 2 (flag ++ " = true;")
  line 1 "\x7d"
  line 1 (p.type ++ "* " ++ p.name ++ " = NULL;")

def draftCopy : Drafting Unit := do
  let w ← get
  let p := w.param
  let settings := w.generator.settings
  let copy := localCopyName p.name
  line 1 (marshalClassName p.type ++ " " ++ copy ++ "(" ++ settings.marshalContext ++ ", " ++
    settings.memoryAccessor ++ ", " ++ p.guestValue ++ ");")
  line 1 (p.type ++ "* " ++ p.name ++ " = &" ++ copy ++ ".s;")
  request p.type

def draftStruct (function : Signature) : Drafting Unit := do
  let w ← get
  let p := w.param
  if !p.isSinglePointer then refuse function .notSinglePointer
  else if w.generator.catalog.isExcluded p.type then draftNull function
  else
    match w.generator.catalog.category? p.type with
    | none => refuse function (.unknownLayout p.type)
    | some category =>
      if category.hasLayout then draftCopy
      else refuse function (.notAnAggregate p.type category)

def draftRange (function : Signature) : Drafting Unit := do
  let w ← get
  if !w.param.isPointer then refuse function .mappingNotThroughPointer
  else
    if w.param.isDoublePointer then passByAddress w.generator.settings.placeholder
    let p := (← get).param
    line 1 (typeSpelling p.type p.isPointer ++ " " ++ p.name ++ " = NULL;")

/-- What a strategy does before the native call. -/
def before (function : Signature) : Strategy → Drafting Unit
  | direct => draftDirect function
  | structIn => draftStruct function
  | mapMemory _ => draftRange function

/-- What a strategy does after the native call. -/
def after (function : Signature) : Strategy → Drafting Unit
  | direct | structIn => pure ()
  | mapMemory range => do
    let w ← get
    let settings := w.generator.settings
    let statement := registration settings range w.param.name
    match function.callStatus with
    | .checked =>
      line 1 ("if (" ++ settings.statusLocal ++ " == " ++ settings.successValue ++ ") \x7b")
      line 2 statement
      line 1 "\x7d"
    | .succeeded => line 1 statement
    | .failed => pure ()

end Strategy

namespace Draft

/-- A parameter's declaration put into a draft. -/
def declare (w : Draft) (s : Strategy) (function : Signature) : Drafted :=
  let d := w.generator.declare s function w.param
  let events := w.events ++ d.events
  match d.result with
  | .error fault => ⟨.error fault, { w with generator := d.generator, events }⟩
  | .ok declared => ⟨.ok (), ⟨d.generator, w.text ++ declared.text, declared.param, events⟩⟩

/-- A parameter's publication put into a draft. -/
def publish (w : Draft) (s : Strategy) (function : Signature) : Drafted :=
  ⟨.ok (),
    { w with text := w.text ++ s.publish w.generator.settings function.callStatus w.param }⟩

variable {s : Strategy} {function : Signature} {w : Draft}

theorem declare_of_error {obstacle : Obstacle}
    (h : s.declare w.generator.catalog w.generator.settings function.name w.param =
      .error obstacle) :
    w.declare s function =
      ⟨.error { function := function.name, param := w.param.name, obstacle }, w⟩ := by
  simp [declare, Generator.declare, h]

theorem declare_of_ok {d : Declaration}
    (h : s.declare w.generator.catalog w.generator.settings function.name w.param = .ok d) :
    w.declare s function =
      ⟨.ok (), ⟨(w.generator.record function.name d).1, w.text ++ d.text, d.param,
        w.events ++ (w.generator.record function.name d).2⟩⟩ := by
  simp [declare, Generator.declare, h]

end Draft

namespace Drafting

theorem on_pure (w : Draft) : (pure () : Drafting Unit).on w = ⟨.ok (), w⟩ := rfl

theorem on_get (next : Draft → Drafting Unit) (w : Draft) :
    (get >>= next).on w = (next w).on w := rfl

theorem on_modify (change : Draft → Draft) (w : Draft) :
    (modify change : Drafting Unit).on w = ⟨.ok (), change w⟩ := rfl

theorem on_modify_bind (change : Draft → Draft) (next : Unit → Drafting Unit) (w : Draft) :
    (modify change >>= next).on w = (next ()).on (change w) := rfl

theorem on_refuse (function : Signature) (obstacle : Obstacle) (w : Draft) :
    (refuse function obstacle).on w =
      ⟨.error { function := function.name, param := w.param.name, obstacle }, w⟩ := rfl

variable (function : Signature) (w : Draft)

theorem on_draftDirect : (Strategy.draftDirect function).on w = w.declare .direct function := by
  unfold Strategy.draftDirect
  rw [on_get]
  cases double : w.param.isDoublePointer with
  | true =>
    rw [Draft.declare_of_error (by simp only [Strategy.declare, Strategy.declareDirect, double]; rfl)]
    simp only [double, if_true, on_refuse]
  | false =>
    rw [Draft.declare_of_ok (by simp only [Strategy.declare, Strategy.declareDirect, double]; rfl)]
    simp [double, line, on_modify, Generator.record]

theorem on_draftNull :
    (Strategy.draftNull function).on w =
      let d := Strategy.declareNull w.generator.settings function.name w.param
      ⟨.ok (), ⟨(w.generator.record function.name d).1, w.text ++ d.text, d.param,
        w.events ++ (w.generator.record function.name d).2⟩⟩ := by
  unfold Strategy.draftNull warn
  rw [on_modify_bind, on_get]
  simp only [line, on_modify_bind, on_modify, Strategy.declareNull, Generator.record]
  cases warned : w.generator.warned with
  | true => simp [String.append_assoc]
  | false => simp [String.append_assoc]

theorem on_draftCopy :
    Strategy.draftCopy.on w =
      let d := Strategy.declareCopy w.generator.settings w.param
      ⟨.ok (), ⟨(w.generator.record function.name d).1, w.text ++ d.text, d.param,
        w.events ++ (w.generator.record function.name d).2⟩⟩ := by
  unfold Strategy.draftCopy
  rw [on_get]
  simp only [line, request, on_modify_bind, on_modify, Strategy.declareCopy, Generator.record]
  simp [String.append_assoc]

theorem on_draftStruct :
    (Strategy.draftStruct function).on w = w.declare .structIn function := by
  unfold Strategy.draftStruct
  rw [on_get]
  cases single : w.param.isSinglePointer with
  | false =>
    rw [Draft.declare_of_error (by simp only [Strategy.declare, Strategy.declareStruct, single]; rfl)]
    simp [single, on_refuse]
  | true =>
    cases excluded : w.generator.catalog.isExcluded w.param.type with
    | true =>
      rw [Draft.declare_of_ok
        (by simp only [Strategy.declare, Strategy.declareStruct, single, excluded]; rfl)]
      simp [single, excluded, on_draftNull]
    | false =>
      cases found : w.generator.catalog.category? w.param.type with
      | none =>
        rw [Draft.declare_of_error
          (by simp only [Strategy.declare, Strategy.declareStruct, single, excluded, found]; rfl)]
        simp [single, excluded, found, on_refuse]
      | some category =>
        cases layout : category.hasLayout with
        | true =>
          rw [Draft.declare_of_ok (by
            simp only [Strategy.declare, Strategy.declareStruct, single, excluded, found, layout]; rfl)]
          simp [single, excluded, found, layout, on_draftCopy function]
        | false =>
          rw [Draft.declare_of_error (by
            simp only [Strategy.declare, Strategy.declareStruct, single, excluded, found, layout]; rfl)]
          simp [single, excluded, found, layout, on_refuse]

theorem on_draftRange (range : MappedRange) :
    (Strategy.draftRange function).on w = w.declare (.mapMemory range) function := by
  unfold Strategy.draftRange
  rw [on_get]
  cases pointer : w.param.isPointer with
  | false =>
    rw [Draft.declare_of_error (by simp only [Strategy.declare, Strategy.declareRange, pointer]; rfl)]
    simp [on_refuse]
  | true =>
    rw [Draft.declare_of_ok (by simp only [Strategy.declare, Strategy.declareRange, pointer]; rfl)]
    cases double : w.param.isDoublePointer with
    | false => simp [pointer, on_get, line, on_modify, Generator.record]
    | true =>
      simp [pointer, double, passByAddress, on_modify_bind, on_get, line, on_modify,
        Generator.record]

end Drafting

namespace Draft

/-- Drafts over the same types, table and settings, with the same parameter. Their texts may differ,
and so may what their generators have staged, flagged and reported. -/
structure Alike (v w : Draft) : Prop where
  catalog : v.generator.catalog = w.generator.catalog
  settings : v.generator.settings = w.generator.settings
  param : v.param = w.param

variable {v w : Draft} {s : Strategy} {function : Signature}

/-- A declaration adds to the text what does not depend on it. -/
theorem declare_adds (s : Strategy) (function : Signature) (w : Draft) :
    ∃ text, ∀ v : Draft, v.Alike w →
      (v.declare s function).result = (w.declare s function).result ∧
        (v.declare s function).draft.param = (w.declare s function).draft.param ∧
        (v.declare s function).draft.text = v.text ++ text := by
  cases outcome : s.declare w.generator.catalog w.generator.settings function.name w.param with
  | error obstacle =>
    refine ⟨"", fun v same => ?_⟩
    rw [declare_of_error outcome]
    rw [← same.catalog, ← same.settings, ← same.param] at outcome
    rw [declare_of_error outcome, same.param]
    exact ⟨rfl, rfl, String.append_empty.symm⟩
  | ok d =>
    refine ⟨d.text, fun v same => ?_⟩
    rw [declare_of_ok outcome]
    rw [← same.catalog, ← same.settings, ← same.param] at outcome
    rw [declare_of_ok outcome]
    exact ⟨rfl, rfl, rfl⟩

theorem publish_adds (s : Strategy) (function : Signature) (w : Draft) :
    ∃ text, ∀ v : Draft, v.Alike w →
      v.publish s function = ⟨.ok (), { v with text := v.text ++ text }⟩ := by
  refine ⟨s.publish w.generator.settings function.callStatus w.param, fun v same => ?_⟩
  rw [publish, same.settings, same.param]

end Draft

namespace Strategy

theorem on_before (s : Strategy) (function : Signature) (w : Draft) :
    (s.before function).on w = w.declare s function := by
  cases s with
  | direct => exact Drafting.on_draftDirect function w
  | structIn => exact Drafting.on_draftStruct function w
  | mapMemory range => exact Drafting.on_draftRange function w range

theorem on_after (s : Strategy) (function : Signature) (w : Draft) :
    (s.after function).on w = w.publish s function := by
  cases s with
  | direct => simp [after, Draft.publish, publish, Drafting.on_pure]
  | structIn => simp [after, Draft.publish, publish, Drafting.on_pure]
  | mapMemory range =>
    unfold after Draft.publish publish
    rw [Drafting.on_get]
    cases function.callStatus with
    | checked =>
      simp [Drafting.line, Drafting.on_modify_bind, Drafting.on_modify, String.append_assoc]
    | succeeded => simp [Drafting.line, Drafting.on_modify]
    | failed => simp [Drafting.on_pure]

/-- Only a parameter that gets another name is passed by another expression. -/
theorem received_eq (settings : Settings) (p : Param) (s : Strategy) :
    s.received settings p =
        { p with
          name := (s.renamed? settings p).getD p.name
          hostValue := (s.received settings p).hostValue } ∧
      (s.renamed? settings p = none → (s.received settings p).hostValue = p.hostValue) := by
  cases s with
  | direct => exact ⟨rfl, fun _ => rfl⟩
  | structIn => exact ⟨rfl, fun _ => rfl⟩
  | mapMemory range =>
    -- By cases on a proposition, as the flag is a field of the record on the right as well.
    by_cases double : p.isDoublePointer = true
    · simp [received, renamed?, double]
    · have same : received settings p (.mapMemory range) = p := by simp [received, double]
      have kept : renamed? settings p (.mapMemory range) = none := by simp [renamed?, double]
      rw [same, kept]
      exact ⟨rfl, fun _ => rfl⟩

/--
A strategy at work does what its declaration and its publication say. It adds to the text, and what
it adds, what comes of it and what the parameter becomes is the same in all drafts that are alike.
Before the call it either refuses and has done nothing, or gives the parameter the name that was
foretold and changes nothing else of it but, with the name, the expression that is passed. After the
call it never refuses, and changes the text only.
-/
theorem works_on_drafts (s : Strategy) (function : Signature) (w : Draft) :
    ((s.before function).on w = w.declare s function ∧
      (s.after function).on w = w.publish s function) ∧
    (∃ text, ∀ v : Draft, v.Alike w →
      ((s.before function).on v).result = ((s.before function).on w).result ∧
        ((s.before function).on v).draft.param = ((s.before function).on w).draft.param ∧
        ((s.before function).on v).draft.text = v.text ++ text) ∧
    (match (s.before function).on w with
      | ⟨.error _, left⟩ => left = w
      | ⟨.ok (), left⟩ =>
        left.param =
            { w.param with
              name := (s.renamed? w.generator.settings w.param).getD w.param.name
              hostValue := left.param.hostValue } ∧
          (s.renamed? w.generator.settings w.param = none →
            left.param.hostValue = w.param.hostValue) ∧
          left.generator.catalog = w.generator.catalog ∧
          left.generator.settings = w.generator.settings ∧
          left.generator.flagged = w.generator.flagged) ∧
    ∃ text, ∀ v : Draft, v.Alike w →
      (s.after function).on v = ⟨.ok (), { v with text := v.text ++ text }⟩ := by
  simp only [on_before, on_after]
  refine ⟨⟨trivial, trivial⟩, Draft.declare_adds s function w, ?_, Draft.publish_adds s function w⟩
  cases outcome : s.declare w.generator.catalog w.generator.settings function.name w.param with
  | error obstacle => rw [Draft.declare_of_error outcome]
  | ok d =>
    rw [Draft.declare_of_ok outcome, declare_param outcome, Generator.record_generator]
    obtain ⟨renamed, passed⟩ := received_eq w.generator.settings w.param s
    exact ⟨renamed, passed, rfl, rfl, rfl⟩

end Strategy

end HostCall
