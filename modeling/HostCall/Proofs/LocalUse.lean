import HostCall.Proofs.Acceptance
import HostCall.Proofs.Assembly
import HostCall.Proofs.Pass

/-!
One local for each parameter. The declaration, the argument of the native call and the registration
of a mapped range are written at different times, the last two for a parameter that may have got
another name in between; all three name the same local, and the range is still the one that is stated
under the parameter's own name. The status local is compared or returned only where the call
declares it.
-/
namespace HostCall

/-- What follows the native call for a parameter. -/
inductive Aftermath where
  | nothing
  | always (statement : String)
  /-- The statement stands under a comparison of the status local. -/
  | onSuccess (statement : String)

namespace Aftermath

def text (settings : Settings) : Aftermath → String
  | nothing => ""
  | always statement => bodyLine 1 statement
  | onSuccess statement =>
    bodyLine 1 ("if (" ++ settings.statusLocal ++ " == " ++ settings.successValue ++ ") \x7b") ++
      bodyLine 2 statement ++ bodyLine 1 "\x7d"

def comparesStatus : Aftermath → Bool
  | onSuccess _ => true
  | nothing | always _ => false

/-- The registration of a mapped range, if one is stated, under a host pointer. -/
def ofRange (settings : Settings) (status : CallStatus) (pointer : String) :
    Option MappedRange → Aftermath
  | none => nothing
  | some range =>
    let call := settings.mapFunction ++ "(" ++ range.handle ++ ", " ++ pointer ++ ", " ++ range.size ++ ")"
    let statement :=
      match range.guestOut with
      | some address => settings.guestWrite ++ "(" ++ address ++ ", " ++ call ++ ");"
      | none => call ++ ";"
    match status with
    | .checked => onSuccess statement
    | .succeeded => always statement
    | .failed => nothing

end Aftermath

/-- What a wrapper has of one parameter: its declaration, its argument, and what follows the call. -/
structure ParamParts where
  declaration : String
  argument : String
  aftermath : Aftermath

namespace Generator

/-- The parts are those that the strategy of the parameter makes. -/
def Makes (g : Generator) (f : HostFunction) (p : Param) (parts : ParamParts) : Prop :=
  ∃ d, (g.declare (g.catalog.strategy f.name p) f.toSignature p).result = .ok d ∧
    parts.declaration = d.text ∧ parts.argument = d.param.hostValue ∧
    parts.aftermath.text g.settings =
      (g.catalog.strategy f.name p).publish g.settings f.callStatus d.param

/-- All parts name the parameter's local. -/
structure NamesLocal (g : Generator) (f : HostFunction) (p : Param) (parts : ParamParts) : Prop where
  declared : ∃ lines value, parts.declaration = lines ++
    bodyLine 1
      (typeSpelling p.type p.isPointer ++ " " ++ p.hostLocal g.settings ++ " = " ++ value ++ ";")
  passed : p.isDoublePointer = true ∨ p.hostValue = p.name →
    parts.argument =
      if p.isDoublePointer then "&" ++ p.hostLocal g.settings else p.hostLocal g.settings
  registered : parts.aftermath =
    .ofRange g.settings f.callStatus (p.hostLocal g.settings) (g.catalog.range? f.name p.name)
  stated : ∀ range, g.catalog.range? f.name p.name = some range →
    ∃ m ∈ g.catalog.mappings, m.function = f.name ∧ m.param = p.name ∧ m.toMappedRange = range

end Generator

namespace Strategy

variable {c : Catalog} {settings : Settings} {function : String} {p : Param} {d : Declaration}
  {s : Strategy}

theorem declareDirect_lastLine (h : declareDirect p = .ok d) :
    ∃ value, d.text =
      bodyLine 1 (typeSpelling p.type p.isPointer ++ " " ++ d.param.name ++ " = " ++ value ++ ";") := by
  unfold declareDirect at h
  split at h
  · cases h
  · cases h
    refine ⟨"(" ++ typeSpelling p.type p.isPointer ++ ")" ++ p.guestValue, ?_⟩
    have cast (x : String) : " = " ++ ("(" ++ x) = " = (" ++ x := by simp [← String.append_assoc]
    simp only [String.append_assoc, cast]

theorem declareRange_lastLine (h : declareRange settings p = .ok d) :
    d.text =
      bodyLine 1 (typeSpelling p.type p.isPointer ++ " " ++ d.param.name ++ " = " ++ "NULL" ++ ";") := by
  unfold declareRange at h
  split at h
  · cases h
  · cases h
    cases p.isDoublePointer <;> simp [String.append_assoc]

theorem declareStruct_lastLine (h : declareStruct c settings function p = .ok d) :
    ∃ lines value, d.text = lines ++
      bodyLine 1 (typeSpelling p.type p.isPointer ++ " " ++ d.param.name ++ " = " ++ value ++ ";") := by
  obtain ⟨single, kinds⟩ := declareStruct_eq_ok h
  have pointer : p.isPointer = true := (Bool.and_eq_true_iff.1 single).1
  have spelling : typeSpelling p.type p.isPointer ++ " " = p.type ++ "* " := by
    simp [typeSpelling, pointer, String.append_assoc]
  rw [spelling]
  rcases kinds with ⟨_, rfl⟩ | ⟨_, _, rfl⟩
  · have ending : (declareNull settings function p).text =
        _ ++ bodyLine 1 (p.type ++ "* " ++ p.name ++ " = NULL;") := rfl
    have line : p.type ++ "* " ++ p.name ++ " = NULL;" =
        p.type ++ "* " ++ p.name ++ " = " ++ "NULL" ++ ";" := by simp [String.append_assoc]
    rw [line] at ending
    exact ⟨_, "NULL", ending⟩
  · have ending : (declareCopy settings p).text =
        _ ++ bodyLine 1 (p.type ++ "* " ++ p.name ++ " = &" ++ localCopyName p.name ++ ".s;") := rfl
    have line : p.type ++ "* " ++ p.name ++ " = &" ++ localCopyName p.name ++ ".s;" =
        p.type ++ "* " ++ p.name ++ " = " ++ ("&" ++ localCopyName p.name ++ ".s") ++ ";" := by
      have address (x : String) : " = " ++ ("&" ++ x) = " = &" ++ x := by
        simp [← String.append_assoc]
      simp [String.append_assoc, address]
    rw [line] at ending
    exact ⟨_, _, ending⟩

/-- Whatever the strategy, a declaration ends with the line of the host's variable. -/
theorem declare_lastLine (h : s.declare c settings function p = .ok d) :
    ∃ lines value, d.text = lines ++
      bodyLine 1 (typeSpelling p.type p.isPointer ++ " " ++ d.param.name ++ " = " ++ value ++ ";") := by
  cases s with
  | direct =>
    obtain ⟨value, line⟩ := declareDirect_lastLine h
    exact ⟨"", value, by rw [String.empty_append, line]⟩
  | structIn => exact declareStruct_lastLine h
  | mapMemory range => exact ⟨"", "NULL", by rw [String.empty_append, declareRange_lastLine h]⟩

end Strategy

namespace Generator

variable {g : Generator} {f : HostFunction} {p : Param} {d : Declaration}

theorem ofRange_text (g : Generator) (f : HostFunction) (p q : Param) :
    (Aftermath.ofRange g.settings f.callStatus q.name (g.catalog.range? f.name p.name)).text
        g.settings =
      (g.catalog.strategy f.name p).publish g.settings f.callStatus q := by
  cases stated : g.catalog.range? f.name p.name with
  | none =>
    rcases Catalog.strategy_of_unstated stated with chosen | chosen
    · rw [chosen]
      rfl
    · rw [chosen]
      rfl
  | some range =>
    rw [Catalog.strategy_eq_mapMemory_iff.2 stated]
    unfold Strategy.publish Strategy.registration Aftermath.ofRange
    cases f.callStatus <;> rfl

/-- The parts that a declared parameter has in a wrapper. -/
def partsOf (g : Generator) (f : HostFunction) (p : Param) (d : Declaration) : ParamParts :=
  { declaration := d.text
    argument := d.param.hostValue
    aftermath :=
      .ofRange g.settings f.callStatus d.param.name (g.catalog.range? f.name p.name) }

theorem makes_partsOf
    (h : (g.catalog.strategy f.name p).declare g.catalog g.settings f.name p = .ok d) :
    g.Makes f p (g.partsOf f p d) :=
  ⟨d, declare_eq_ok_iff.2 h, rfl, rfl, ofRange_text g f p d.param⟩

theorem namesLocal_partsOf (accepted : f.Accepted g.catalog g.settings) (member : p ∈ f.params)
    (h : (g.catalog.strategy f.name p).declare g.catalog g.settings f.name p = .ok d) :
    g.NamesLocal f p (g.partsOf f p d) := by
  have received : d.param = f.received g.catalog g.settings p := Strategy.declare_param h
  have name : d.param.name = p.hostLocal g.settings := by
    rw [received, accepted.received_name member]
  have line := Strategy.declare_lastLine h
  rw [name] at line
  refine ⟨line, ?_, ?_, ?_⟩
  · intro own
    simp only [partsOf, received, accepted.received_eq member, Param.hostLocal]
    cases double : p.isDoublePointer with
    | true => rfl
    | false => exact own.resolve_left (by simp [double])
  · simp only [partsOf, name]
  · intro range stated
    unfold Catalog.range? at stated
    obtain ⟨m, found, rfl⟩ := Option.map_eq_some_iff.1 stated
    obtain ⟨mem, matched⟩ := findRev?_eq_some found
    rw [Bool.and_eq_true, beq_iff_eq, beq_iff_eq] at matched
    exact ⟨m, mem, matched.1, matched.2, rfl⟩

/-- The parts of all parameters, in order. -/
theorem exists_parts {params : List Param} {ds : List Declaration}
    (accepted : f.Accepted g.catalog g.settings) (within : ∀ p ∈ params, p ∈ f.params)
    (declared : List.Forall₂
      (fun p d => (g.catalog.strategy f.name p).declare g.catalog g.settings f.name p = .ok d)
      params ds) :
    ∃ parts, List.Forall₂ (fun p x => g.Makes f p x ∧ g.NamesLocal f p x) params parts ∧
      parts.map (·.declaration) = ds.map (·.text) ∧
      parts.map (·.argument) = ds.map (·.param.hostValue) ∧
      parts.map (·.aftermath.text g.settings) =
        List.zipWith (fun p d =>
          (g.catalog.strategy f.name p).publish g.settings f.callStatus d.param) params ds := by
  induction declared with
  | nil => exact ⟨[], .nil, rfl, rfl, rfl⟩
  | @cons p d params ds first _ ih =>
    obtain ⟨own, others⟩ := List.forall_mem_cons.1 within
    obtain ⟨parts, fit, declarations, arguments, aftermaths⟩ := ih others
    refine ⟨g.partsOf f p d :: parts,
      .cons ⟨makes_partsOf first, namesLocal_partsOf accepted own first⟩ fit, ?_, ?_, ?_⟩
    · rw [List.map_cons, List.map_cons, declarations]
      rfl
    · rw [List.map_cons, List.map_cons, arguments]
      rfl
    · rw [List.map_cons, List.zipWith_cons_cons, aftermaths]
      exact congrArg (· :: _) (ofRange_text g f p d.param)

/-- What the native call's line begins with: the status local, where there is a result. -/
def statusDeclaration (g : Generator) (f : HostFunction) : String :=
  match f.returnType with
  | some type => type ++ " " ++ g.settings.statusLocal ++ " = "
  | none => ""

/-- The text of a wrapper whose parameters have these parts. -/
def written (g : Generator) (f : HostFunction) (parts : List ParamParts) : String :=
  "// " ++ f.name ++ "\n" ++
  "void " ++ g.settings.wrapperPrefix ++ f.name ++ "(CPU* cpu) \x7b\n" ++
  String.join (parts.map (·.declaration)) ++
  ("    " ++ g.statusDeclaration f ++ g.settings.dispatchPrefix ++ f.name ++ "(" ++
    ", ".intercalate (parts.map (·.argument)) ++ ");\n") ++
  String.join (parts.map (·.aftermath.text g.settings)) ++
  g.returnLine f ++
  "\x7d\n"

theorem wrapperText_eq_written {parts : List ParamParts} {ds : List Declaration}
    (declarations : parts.map (·.declaration) = ds.map (·.text))
    (arguments : parts.map (·.argument) = ds.map (·.param.hostValue))
    (aftermaths : parts.map (·.aftermath.text g.settings) =
      List.zipWith (fun p d =>
        (g.catalog.strategy f.name p).publish g.settings f.callStatus d.param) f.params ds) :
    f.wrapperText g.settings (f.params.map (g.catalog.strategy f.name)) ds = g.written f parts := by
  have passed : (ds.map (·.param)).map (·.hostValue) = parts.map (·.argument) := by
    rw [arguments, List.map_map]
    rfl
  rw [wrapperText_eq_assembled]
  unfold assembled written callLine
  rw [declarations, aftermaths, passed]
  rfl

theorem comparesStatus_ofRange {settings : Settings} {pointer : String} {status : CallStatus}
    {range? : Option MappedRange}
    (compared : (Aftermath.ofRange settings status pointer range?).comparesStatus = true) :
    status = .checked := by
  unfold Aftermath.ofRange at compared
  cases range? with
  | none => cases compared
  | some range =>
    cases status with
    | checked => rfl
    | succeeded => cases compared
    | failed => cases compared

theorem checked_of_compared {params : List Param} {parts : List ParamParts}
    (fit : List.Forall₂ (fun p x => g.Makes f p x ∧ g.NamesLocal f p x) params parts) :
    ∀ x ∈ parts, x.aftermath.comparesStatus = true → f.callStatus = .checked := by
  induction fit with
  | nil => simp
  | cons first _ ih =>
    refine List.forall_mem_cons.2 ⟨fun compared => ?_, ih⟩
    rw [first.2.registered] at compared
    exact comparesStatus_ofRange compared

/-- A comparison and a return only ever name a status local that the call declares. -/
theorem statusDeclaration_of_used {parts : List ParamParts}
    (accepted : f.Accepted g.catalog g.settings)
    (fit : List.Forall₂ (fun p x => g.Makes f p x ∧ g.NamesLocal f p x) f.params parts)
    (used : (∃ x ∈ parts, x.aftermath.comparesStatus = true) ∨ g.returnLine f ≠ "") :
    ∃ type, f.returnType = some type ∧
      g.statusDeclaration f = type ++ " " ++ g.settings.statusLocal ++ " = " := by
  have returns : f.returnType ≠ none := by
    rcases used with ⟨x, member, compares⟩ | returned
    · exact accepted.status (checked_of_compared fit x member compares)
    · intro void
      rw [returnLine, void] at returned
      exact returned rfl
  obtain ⟨type, result⟩ := Option.ne_none_iff_exists'.1 returns
  exact ⟨type, result, by rw [statusDeclaration, result]⟩

/-- A complete wrapper names one local for each parameter, wherever it stands in the text. -/
theorem emit_one_local (g : Generator) (f : HostFunction) (text : String)
    (complete : (g.emit f).result = .ok text) :
    (∃ parts, List.Forall₂ (fun p x => g.Makes f p x ∧ g.NamesLocal f p x) f.params parts ∧
      text = g.written f parts ∧
      ((∃ x ∈ parts, x.aftermath.comparesStatus = true) ∨ g.returnLine f ≠ "" →
        ∃ type, f.returnType = some type ∧
          g.statusDeclaration f = type ++ " " ++ g.settings.statusLocal ++ " = ")) ∧
    (f.params.filter (·.isDoublePointer)).length ≤ 1 := by
  rw [emit_result] at complete
  have accepted := HostFunction.accepted_of_ok complete
  obtain ⟨declared, rfl⟩ := HostFunction.attempt_eq_ok complete
  obtain ⟨parts, fit, declarations, arguments, aftermaths⟩ :=
    exists_parts accepted (fun _ member => member) declared
  exact ⟨⟨parts, fit, wrapperText_eq_written declarations arguments aftermaths,
    statusDeclaration_of_used accepted fit⟩, accepted.atMostOne_doublePointer⟩

end Generator

/-- A parameter is passed by an expression of its own, which a double pointer is not. -/
def expressionStated : HostFunction :=
  { mapMemory with
    params := [
      { name := "info", type := "VkMemoryMapInfo", isPointer := true, guestValue := "ARG2"
        hostValue := "info" },
      { name := "ppData", type := "void", isPointer := true, isDoublePointer := true
        guestValue := "ARG3", hostValue := "elsewhere" }] }

theorem emit_one_local_expressionStated :
    ∃ text parts, (mapper.emit expressionStated).result = .ok text ∧
      text = mapper.written expressionStated parts ∧
      parts.map (·.argument) = ["info", "&pData"] ∧
      (∃ lines value, (parts.map (·.declaration)).getLast? =
        some (lines ++ bodyLine 1 ("void* pData = " ++ value ++ ";"))) ∧
      (parts.map (·.aftermath.text mapper.settings)).getLast? = some (
        "    if (result == VK_SUCCESS) \x7b\n" ++
        "        cpu->memory->writed(ARG3, mapVkMemory(info->memory, pData, info->size));\n" ++
        "    \x7d\n") := by
  obtain ⟨text, complete⟩ := Generator.ok_of_wraps (g := mapper) (f := expressionStated) (by decide)
  obtain ⟨⟨parts, fit, written, _⟩, _⟩ :=
    Generator.emit_one_local mapper expressionStated text complete
  refine ⟨text, parts, complete, written, ?_⟩
  cases fit with
  | cons first fit =>
    cases fit with
    | cons second fit =>
      cases fit with
      | nil =>
        obtain ⟨_, names⟩ := first
        obtain ⟨_, doubled⟩ := second
        obtain ⟨lines, value, declared⟩ := doubled.declared
        refine ⟨?_, ⟨lines, value, ?_⟩, ?_⟩
        · simp only [List.map_cons, List.map_nil, names.passed (by decide),
            doubled.passed (by decide)]
          rfl
        · simp only [List.map_cons, List.map_nil, declared]
          rfl
        · simp only [List.map_cons, List.map_nil, doubled.registered]
          rfl

end HostCall
