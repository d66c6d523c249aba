import HostCall.Proofs.Acceptance
import HostCall.Proofs.MarshalIn

/-!
A function emitted again, as the first emission left it. Nothing more is changed in it and nothing
more is flagged. A double pointer goes by the placeholder's name from then on, and its range is
looked up under that name: where this was its name before, the second wrapper is the first one over
again, and where it was not and nothing is stated under it, there is no second wrapper.
-/
namespace HostCall

/-- A double pointer as its declaration leaves it. -/
def Param.atPlaceholder (settings : Settings) (p : Param) : Param :=
  { p with name := settings.placeholder, hostValue := "&" ++ settings.placeholder }

/-- A function as its wrapper leaves it. -/
def HostFunction.settled (f : HostFunction) (c : Catalog) (settings : Settings) : HostFunction :=
  { f with params := f.params.map (f.received c settings) }

/-- One parameter has got the placeholder's name, which no other parameter has. -/
def HostFunction.RenamedIn (f left : HostFunction) (settings : Settings) : Prop :=
  ∃ before p after, f.params = before ++ p :: after ∧
    left.params = before ++ p.atPlaceholder settings :: after ∧
    p.isDoublePointer = true ∧ p.name ≠ settings.placeholder ∧
    ∀ q ∈ before ++ after, q.name ≠ settings.placeholder

section Strategy

variable {c : Catalog} {settings : Settings} {function : String} {p : Param}

theorem Strategy.received_atPlaceholder (s : Strategy) :
    s.received settings (p.atPlaceholder settings) = p.atPlaceholder settings := by
  cases s with
  | direct => rfl
  | structIn => rfl
  | mapMemory range => exact ite_self _

/-- A strategy declares a parameter that it has received as it did before. -/
theorem Strategy.declare_received (s : Strategy) :
    s.declare c settings function (s.received settings p) = s.declare c settings function p := by
  cases s with
  | direct => rfl
  | structIn => rfl
  | mapMemory range =>
    unfold received
    cases double : p.isDoublePointer with
    | false => rfl
    | true => simp [declare, declareRange, double]

theorem Catalog.strategy_atPlaceholder (named : p.name = settings.placeholder) :
    c.strategy function (p.atPlaceholder settings) = c.strategy function p := by
  unfold strategy
  rw [named]
  rfl

end Strategy

namespace HostFunction

variable {f : HostFunction} {c : Catalog} {settings : Settings} {p q : Param} {text type : String}

@[simp] theorem settled_name (f : HostFunction) (c : Catalog) (settings : Settings) :
    (f.settled c settings).name = f.name := rfl

theorem received_of_single (single : p.isDoublePointer = false) : f.received c settings p = p :=
  Strategy.received_of_single settings _ single

theorem map_received {params : List Param} (fixed : ∀ p ∈ params, f.received c settings p = p) :
    params.map (f.received c settings) = params :=
  (List.map_congr_left fixed).trans (List.map_id _)

theorem function_of_ok (h : (f.attempt c settings).result = .ok text) :
    (f.attempt c settings).function f = f.settled c settings := by
  have declared := (attempt_eq_ok h).1
  unfold Attempt.function settled
  rw [params_of_declared declared, ← declared.length_eq, List.drop_length, List.append_nil]

/-- Where no declaration changes its parameter, an attempt leaves the function as it is. -/
theorem function_of_received (fixed : ∀ p ∈ f.params, f.received c settings p = p) :
    (f.attempt c settings).function f = f := by
  obtain ⟨k, length, declared, _⟩ := f.attempt_declarations c settings
  have reached : (f.params.take k).map (f.received c settings) = f.params.take k :=
    map_received fun p member => fixed p (List.mem_of_mem_take member)
  unfold Attempt.function
  rw [params_of_declared declared, length, reached, List.take_append_drop]

theorem declareFault?_of_ok (h : (f.attempt c settings).result = .ok text) (member : p ∈ f.params) :
    f.declareFault? c settings p = none := by
  have faultless : (f.attempt c settings).fault? = none := by simp [Attempt.fault?, h]
  rw [attempt_fault, admitted_of_ok h, chosen, declareAll_fault] at faultless
  exact List.findSome?_eq_none_iff.1 faultless p member

theorem paramFault?_of_name (name : IsIdentifier p.name)
    (arity : p.isDoublePointer = true → p.isPointer = true) : f.paramFault? p = none := by
  rw [paramFault?_eq, if_neg (fun rejected => rejects_name.1 rejected name),
    if_neg (fun rejected => rejects_arity.1 rejected arity)]

theorem localOf_of_name (named : p.isDoublePointer = true → p.name = settings.placeholder) :
    f.localOf c settings p = p.name := by
  unfold localOf
  cases c.strategy f.name p with
  | direct => rfl
  | structIn => rfl
  | mapMemory range =>
    cases double : p.isDoublePointer with
    | false => rfl
    | true => exact (named double).symm

/-- Where every parameter is declared as before, the declarations are complete again. -/
theorem declareAll_settled {params : List Param} {ds : List Declaration}
    (same : ∀ p ∈ params,
      (c.strategy f.name (f.received c settings p)).declare c settings f.name
          (f.received c settings p) =
        (c.strategy f.name p).declare c settings f.name p)
    (declared : List.Forall₂
      (fun p d => (c.strategy f.name p).declare c settings f.name p = .ok d) params ds) :
    (f.settled c settings).declareAll c settings
      ((params.map (f.received c settings)).map fun q => (q, c.strategy f.name q)) = (ds, none) := by
  induction declared with
  | nil => rfl
  | cons first _ ih =>
    obtain ⟨again, others⟩ := List.forall_mem_cons.1 same
    rw [List.map_cons, List.map_cons, declareAll, settled_name, again, first]
    simp only [ih others]

namespace Accepted

variable (accepted : f.Accepted c settings)

include accepted

theorem received_of_double (member : p ∈ f.params) (double : p.isDoublePointer = true) :
    f.received c settings p = p.atPlaceholder settings := by
  rw [accepted.received_eq member, if_pos double]
  rfl

/-- A parameter that is left is one of the function's own, or a double pointer. -/
theorem settled_cases (member : q ∈ (f.settled c settings).params) :
    q.isDoublePointer = false ∧ q ∈ f.params ∨
      ∃ p ∈ f.params, p.isDoublePointer = true ∧ q = p.atPlaceholder settings := by
  obtain ⟨p, own, rfl⟩ := List.mem_map.1 member
  cases double : p.isDoublePointer with
  | false =>
    rw [received_of_single double]
    exact .inl ⟨double, own⟩
  | true =>
    rw [accepted.received_of_double own double]
    exact .inr ⟨p, own, double, rfl⟩

/-- Whatever looks through the parameters that are left can meet a fault in a double pointer only. -/
theorem findSome?_settled {find : Param → Option Unsupported} {fault : Unsupported}
    (double : ∃ p ∈ f.params, p.isDoublePointer = true) (own : ∀ p ∈ f.params, find p = none)
    (doubled : ∀ p ∈ f.params, p.isDoublePointer = true →
      find (p.atPlaceholder settings) = some fault) :
    (f.settled c settings).params.findSome? find = some fault := by
  cases found : (f.settled c settings).params.findSome? find with
  | none =>
    obtain ⟨p, member, pointer⟩ := double
    have passed := List.findSome?_eq_none_iff.1 found _ (List.mem_map_of_mem member)
    rw [accepted.received_of_double member pointer, doubled p member pointer] at passed
    cases passed
  | some other =>
    obtain ⟨q, member, met⟩ := List.exists_of_findSome?_eq_some found
    rcases accepted.settled_cases member with ⟨_, kept⟩ | ⟨p, kept, pointer, rfl⟩
    · rw [own q kept] at met
      cases met
    · rw [← met, doubled p kept pointer]

theorem received_settled (member : q ∈ (f.settled c settings).params) :
    (f.settled c settings).received c settings q = q := by
  rcases accepted.settled_cases member with ⟨single, _⟩ | ⟨p, _, _, rfl⟩
  · exact received_of_single single
  · exact Strategy.received_atPlaceholder _

theorem marshalsIn_of_settled (h : (f.settled c settings).MarshalsIn c type) :
    f.MarshalsIn c type := by
  obtain ⟨q, member, same, chosen, included⟩ := h
  rcases accepted.settled_cases member with ⟨_, own⟩ | ⟨p, _, double, rfl⟩
  · exact ⟨q, own, same, chosen, included⟩
  · have single := (Catalog.strategy_eq_structIn chosen).1
    simp [Param.isSinglePointer, Param.atPlaceholder, double] at single

theorem localOf_settled (member : p ∈ f.params) :
    (f.settled c settings).localOf c settings (f.received c settings p) = f.localOf c settings p := by
  rw [accepted.localOf_eq member, ← accepted.received_name member]
  apply localOf_of_name
  cases double : p.isDoublePointer with
  | false => simp [received_of_single double, double]
  | true => simp [accepted.received_of_double member double, Param.atPlaceholder]

theorem localFault?_settled :
    (f.settled c settings).localFault? settings [] ((f.settled c settings).chosen c) = none := by
  have locals : (f.settled c settings).params.map ((f.settled c settings).localOf c settings) =
      f.params.map (f.localOf c settings) := by
    unfold settled
    rw [List.map_map]
    exact List.map_congr_left fun p member => accepted.localOf_settled member
  apply localFault?_eq_none
  · rw [locals]
    exact accepted.distinct
  · intro q member
    obtain ⟨p, own, rfl⟩ := List.mem_map.1 member
    refine ⟨List.not_mem_nil, ?_⟩
    rw [accepted.localOf_settled own]
    exact accepted.apart p own

theorem signatureFault?_settled :
    (f.settled c settings).signatureFault? settings =
      (f.settled c settings).params.findSome? f.paramFault? := by
  have checked : ¬ (f.returnType.isNone && f.callStatus == .checked) = true := by
    intro unchecked
    obtain ⟨none, status⟩ := Bool.and_eq_true_iff.1 unchecked
    exact accepted.status (eq_of_beq status) (Option.isNone_iff_eq_none.1 none)
  exact (if_neg fun rejected => rejects_name.1 rejected accepted.name).trans (if_neg checked)

theorem refusal?_of_identifier
    (named : ∀ p ∈ f.params, p.isDoublePointer = true → IsIdentifier settings.placeholder) :
    (f.settled c settings).refusal? c settings = none := by
  have signature : (f.settled c settings).signatureFault? settings = none := by
    rw [accepted.signatureFault?_settled, List.findSome?_eq_none_iff]
    intro q member
    rcases accepted.settled_cases member with ⟨_, own⟩ | ⟨p, own, double, rfl⟩
    · exact paramFault?_of_name (accepted.paramNames q own) (accepted.arity q own)
    · exact paramFault?_of_name (named p own double) fun _ => accepted.arity p own double
  rw [refusal?, signature, accepted.localFault?_settled]
  rfl

theorem refusal?_of_not_identifier (double : ∃ p ∈ f.params, p.isDoublePointer = true)
    (broken : ¬ IsIdentifier settings.placeholder) :
    (f.settled c settings).refusal? c settings =
      some (f.unsupported settings.placeholder .paramNotIdentifier) := by
  have rejected (p : Param) : f.paramFault? (p.atPlaceholder settings) =
      some (f.unsupported settings.placeholder .paramNotIdentifier) := by
    rw [paramFault?_eq]
    exact if_pos (rejects_name.2 broken)
  have signature : (f.settled c settings).signatureFault? settings =
      some (f.unsupported settings.placeholder .paramNotIdentifier) := by
    rw [accepted.signatureFault?_settled]
    refine accepted.findSome?_settled double (fun p own => ?_) fun p _ _ => rejected p
    exact paramFault?_of_name (accepted.paramNames p own) (accepted.arity p own)
  rw [refusal?, signature]
  rfl

/-- No other parameter has the local of a double pointer. -/
theorem single_beside {before after : List Param} (split : f.params = before ++ p :: after)
    (double : p.isDoublePointer = true) :
    ∀ q ∈ before ++ after, q.isDoublePointer = false ∧ q.name ≠ settings.placeholder := by
  have distinct := accepted.distinct
  rw [accepted.locals_eq, split] at distinct
  have beside := (List.nodup_cons.1 ((List.perm_middle.map _).nodup_iff.1 distinct)).1
  have own : p.hostLocal settings = settings.placeholder := if_pos double
  intro q member
  have apart : q.hostLocal settings ≠ settings.placeholder :=
    fun same => beside (own ▸ same ▸ List.mem_map_of_mem member)
  unfold Param.hostLocal at apart
  cases other : q.isDoublePointer with
  | true => exact absurd (if_pos other) apart
  | false =>
    rw [other] at apart
    exact ⟨rfl, apart⟩

theorem named_of_names_kept
    (kept : (f.settled c settings).params.map (·.name) = f.params.map (·.name)) :
    ∀ p ∈ f.params, p.isDoublePointer = true → p.name = settings.placeholder := by
  unfold settled at kept
  rw [List.map_map, List.map_inj_left] at kept
  intro p member double
  rw [← kept p member, Function.comp, accepted.received_of_double member double]
  rfl

theorem renamed_of_names_changed
    (changed : (f.settled c settings).params.map (·.name) ≠ f.params.map (·.name)) :
    f.RenamedIn (f.settled c settings) settings := by
  have renamed : ∃ p ∈ f.params, (f.received c settings p).name ≠ p.name := by
    unfold settled at changed
    rw [List.map_map, Ne, List.map_inj_left] at changed
    simp only [not_forall, exists_prop] at changed
    exact changed
  obtain ⟨p, member, differs⟩ := renamed
  have double : p.isDoublePointer = true := by
    by_contra single
    exact differs (by rw [received_of_single (Bool.eq_false_iff.2 single)])
  rw [accepted.received_of_double member double] at differs
  obtain ⟨before, after, split⟩ := List.append_of_mem member
  have beside := accepted.single_beside split double
  have fixed (q : Param) (other : q ∈ before ++ after) : f.received c settings q = q :=
    received_of_single (beside q other).1
  have left : (f.settled c settings).params = before ++ p.atPlaceholder settings :: after := by
    unfold settled
    simp only [split, List.map_append, List.map_cons, accepted.received_of_double member double]
    rw [map_received fun q other => fixed q (List.mem_append_left _ other),
      map_received fun q other => fixed q (List.mem_append_right _ other)]
  exact ⟨before, p, after, split, left, double, differs.symm, fun q other => (beside q other).2⟩

end Accepted

/-- Where a double pointer has the placeholder's name already, the wrapper is written again. -/
theorem attempt_settled_of_named (h : (f.attempt c settings).result = .ok text)
    (named : ∀ p ∈ f.params, p.isDoublePointer = true → p.name = settings.placeholder) :
    ((f.settled c settings).attempt c settings).result = .ok text := by
  have accepted := accepted_of_ok h
  -- The names that strategies are looked up by are the same, so no other one is chosen.
  have strategy : ∀ p ∈ f.params,
      c.strategy f.name (f.received c settings p) = c.strategy f.name p := by
    intro p member
    cases double : p.isDoublePointer with
    | false => rw [received_of_single double]
    | true =>
      rw [accepted.received_of_double member double,
        Catalog.strategy_atPlaceholder (named p member double)]
  have declare : ∀ p ∈ f.params,
      (c.strategy f.name (f.received c settings p)).declare c settings f.name
          (f.received c settings p) =
        (c.strategy f.name p).declare c settings f.name p := by
    intro p member
    rw [strategy p member]
    exact Strategy.declare_received _
  have strategies : (f.settled c settings).params.map (c.strategy f.name) =
      f.params.map (c.strategy f.name) := by
    unfold settled
    rw [List.map_map]
    exact List.map_congr_left strategy
  have admitted : (f.settled c settings).refusal? c settings = none := by
    refine accepted.refusal?_of_identifier fun p member double => ?_
    rw [← named p member double]
    exact accepted.paramNames p member
  obtain ⟨declared, rfl⟩ := attempt_eq_ok h
  rw [attempt_of_declared admitted (declareAll_settled declare declared), settled_name, strategies]
  rfl

theorem declareFault?_of_lost (h : (f.attempt c settings).result = .ok text)
    (double : ∃ p ∈ f.params, p.isDoublePointer = true)
    (lost : c.range? f.name settings.placeholder = none) :
    (f.settled c settings).params.findSome? (f.declareFault? c settings) =
      some (f.unsupported settings.placeholder .doublePointer) := by
  have accepted := accepted_of_ok h
  have fault (p : Param) (pointer : p.isDoublePointer = true) :
      f.declareFault? c settings (p.atPlaceholder settings) =
        some (f.unsupported settings.placeholder .doublePointer) := by
    have chosen : c.strategy f.name (p.atPlaceholder settings) = .direct :=
      strategy_of_doublePointer pointer lost
    rw [declareFault?_direct _ _ _ chosen]
    exact if_pos pointer
  exact accepted.findSome?_settled double (fun p own => declareFault?_of_ok h own)
    fun p _ pointer => fault p pointer

/-- Where nothing is stated under the placeholder's name, a double pointer stands in the way. -/
theorem attempt_settled_of_lost (h : (f.attempt c settings).result = .ok text)
    (double : ∃ p ∈ f.params, p.isDoublePointer = true)
    (lost : c.range? f.name settings.placeholder = none) :
    ∃ obstacle, ((f.settled c settings).attempt c settings).result =
        .error (f.unsupported settings.placeholder obstacle) ∧
      (IsIdentifier settings.placeholder → obstacle = .doublePointer) ∧
      (¬ IsIdentifier settings.placeholder → obstacle = .paramNotIdentifier) := by
  have accepted := accepted_of_ok h
  have declared : ((f.settled c settings).declareAll c settings ((f.settled c settings).chosen c)).2 =
      some (f.unsupported settings.placeholder .doublePointer) :=
    (declareAll_fault _ _ _ _).trans (declareFault?_of_lost h double lost)
  by_cases named : IsIdentifier settings.placeholder
  · refine ⟨.doublePointer, ?_, fun _ => rfl, fun broken => absurd named broken⟩
    have admitted := accepted.refusal?_of_identifier fun _ _ _ => named
    rw [attempt_of_obstacle admitted (Prod.ext rfl declared)]
  · refine ⟨.paramNotIdentifier, ?_, fun name => absurd name named, fun _ => rfl⟩
    rw [attempt_of_refusal (accepted.refusal?_of_not_identifier double named)]

end HostFunction

namespace Generator

variable {g : Generator} {f : HostFunction} {text : String}

theorem emit_function_of_ok (complete : (g.emit f).result = .ok text) :
    (g.emit f).function = f.settled g.catalog g.settings := by
  rw [emit_result] at complete
  rw [emit_function, HostFunction.function_of_ok complete]

/-- An emission again leaves the function as it was left. -/
theorem emit_again_function (complete : (g.emit f).result = .ok text) :
    ((g.emit f).generator.emit (g.emit f).function).function = (g.emit f).function := by
  rw [emit_function, emit_catalog, emit_settings, emit_function_of_ok complete]
  rw [emit_result] at complete
  have accepted := HostFunction.accepted_of_ok complete
  exact HostFunction.function_of_received fun _ member => accepted.received_settled member

/-- An emission again asks for nothing that is not flagged yet. -/
theorem emit_again_flagged (complete : (g.emit f).result = .ok text) :
    ((g.emit f).generator.emit (g.emit f).function).generator.flagged =
      (g.emit f).generator.flagged := by
  ext type
  rw [mem_flagged_emit (emit_staged g f), emit_catalog, emit_function_of_ok complete]
  refine ⟨?_, .inl⟩
  rintro (old | ⟨_, again⟩)
  · exact old
  · have attempted := complete
    rw [emit_result] at attempted
    have asked := (HostFunction.accepted_of_ok attempted).marshalsIn_of_settled again
    have declared := (HostFunction.attempt_eq_ok attempted).1
    have registered := Catalog.isRegistered_of_hasLayout asked.hasLayout
    rw [mem_emit_flagged_of_ok complete, mem_requests_iff declared]
    exact .inr ⟨.inr asked, registered⟩

/-- A second emission of the function that the first one left changes nothing more. It gives the same
text where no parameter was renamed, and fails at the renamed one where its range is lost. -/
theorem emit_again (g : Generator) (f : HostFunction) (text : String)
    (complete : (g.emit f).result = .ok text) :
    let first := g.emit f
    let second := first.generator.emit first.function
    (second.function = first.function ∧ second.generator.flagged = first.generator.flagged ∧
      first.generator.staged = ∅ ∧ second.generator.staged = ∅) ∧
    (first.function.params.map (·.name) = f.params.map (·.name) → second.result = .ok text) ∧
    (first.function.params.map (·.name) ≠ f.params.map (·.name) →
      f.RenamedIn first.function g.settings ∧
      ((∀ m ∈ g.catalog.mappings, ¬ (m.function = f.name ∧ m.param = g.settings.placeholder)) →
        ∃ fault, second.result = .error fault ∧
          fault.function = f.name ∧ fault.param = g.settings.placeholder ∧
          (IsIdentifier g.settings.placeholder →
            fault.obstacle.message = "double pointers need an explicit strategy") ∧
          (¬ IsIdentifier g.settings.placeholder →
            fault.obstacle.message = "name is not a C identifier"))) := by
  intro first second
  have same : second.function = first.function := emit_again_function complete
  have flagged : second.generator.flagged = first.generator.flagged := emit_again_flagged complete
  have left : first.function = f.settled g.catalog g.settings := emit_function_of_ok complete
  have result : second.result =
      ((f.settled g.catalog g.settings).attempt g.catalog g.settings).result := by
    rw [emit_result, emit_catalog, emit_settings, left]
  rw [emit_result] at complete
  have accepted := HostFunction.accepted_of_ok complete
  refine ⟨⟨same, flagged, emit_staged .., emit_staged ..⟩, fun kept => ?_, fun changed => ?_⟩
  · rw [left] at kept
    rw [result]
    exact HostFunction.attempt_settled_of_named complete (accepted.named_of_names_kept kept)
  · rw [left] at changed ⊢
    have renamed := accepted.renamed_of_names_changed changed
    refine ⟨renamed, fun unstated => ?_⟩
    obtain ⟨before, p, after, split, _, double, _⟩ := renamed
    obtain ⟨obstacle, failed, name, broken⟩ := HostFunction.attempt_settled_of_lost complete
      ⟨p, by simp [split], double⟩ (Catalog.range?_eq_none_iff.2 unstated)
    refine ⟨_, result.trans failed, rfl, rfl, fun legal => ?_, fun illegal => ?_⟩
    · exact congrArg Obstacle.message (name legal)
    · exact congrArg Obstacle.message (broken illegal)

end Generator

/-- The range is stated under the placeholder's name. -/
def placeholderMapper : Generator :=
  { catalog :=
      { mapper.catalog with
        mappings := [{ function := "vkMapMemory2", param := "pData", handle := "info->memory"
                       size := "info->size", guestOut := some "ARG3" }] } }

def placeholderReceived : HostFunction :=
  { mapMemory with
    params := [
      { name := "info", type := "VkMemoryMapInfo", isPointer := true, guestValue := "ARG2"
        hostValue := "info" },
      { name := "pData", type := "void", isPointer := true, isDoublePointer := true
        guestValue := "ARG3", hostValue := "pData" }] }

/-- A parameter is renamed and its range is lost; another has the placeholder's name from the start. -/
theorem emit_again_mapMemory :
    (∃ text fault, (mapper.emit mapMemory).result = .ok text ∧
      let first := mapper.emit mapMemory
      let second := first.generator.emit first.function
      mapMemory.RenamedIn first.function mapper.settings ∧ second.function = first.function ∧
        second.result = .error fault ∧
        fault.message = "vkMapMemory2: unsupported parameter `pData`: " ++
          "double pointers need an explicit strategy") ∧
    ∃ text, (placeholderMapper.emit placeholderReceived).result = .ok text ∧
      let first := placeholderMapper.emit placeholderReceived
      let second := first.generator.emit first.function
      second.result = .ok text ∧ second.function = first.function ∧
        first.function ≠ placeholderReceived := by
  constructor
  · have changed : (mapper.emit mapMemory).function.params.map (·.name) ≠
        mapMemory.params.map (·.name) := by decide
    have placeholder : IsIdentifier mapper.settings.placeholder := isIdentifier_iff.1 (by decide)
    obtain ⟨text, complete⟩ := Generator.ok_of_wraps (g := mapper) (f := mapMemory) (by decide)
    obtain ⟨⟨same, _⟩, _, again⟩ := mapper.emit_again mapMemory text complete
    obtain ⟨renamed, failing⟩ := again changed
    obtain ⟨fault, failed, function, param, reason, _⟩ := failing (by decide)
    refine ⟨text, fault, complete, renamed, same, failed, ?_⟩
    unfold Unsupported.message Unsupported.subject
    rw [function, param, reason placeholder]
    decide
  · have kept : (placeholderMapper.emit placeholderReceived).function.params.map (·.name) =
        placeholderReceived.params.map (·.name) := by decide
    obtain ⟨text, complete⟩ :=
      Generator.ok_of_wraps (g := placeholderMapper) (f := placeholderReceived) (by decide)
    obtain ⟨⟨same, _⟩, again, _⟩ := placeholderMapper.emit_again placeholderReceived text complete
    exact ⟨text, complete, again kept, same, by decide⟩

end HostCall
