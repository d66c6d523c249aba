import HostCall.Proofs.Checklist
import HostCall.Proofs.Rollback

/-!
The names that a wrapper's body declares. The locals of its parameters and of the status are kept
apart before anything is declared. The copy of a struct and the flag of a diagnostic get a name
made from a local, which is not compared with the other locals, and neither is the wrapper's own
argument; so all names are distinct exactly where no local has one of these.
-/
namespace HostCall

/-- The names that lines of a wrapper's body declare, in order. -/
inductive Declares : List String → String → Prop where
  | nothing : Declares [] ""
  /-- A variable and its value. -/
  | value (type name value : String) {names : List String} {rest : String} :
      Declares names rest →
        Declares (name :: names) (bodyLine 1 (type ++ " " ++ name ++ " = " ++ value ++ ";") ++ rest)
  /-- A variable that a constructor makes. -/
  | object (type name arguments : String) {names : List String} {rest : String} :
      Declares names rest →
        Declares (name :: names) (bodyLine 1 (type ++ " " ++ name ++ "(" ++ arguments ++ ");") ++ rest)
  | flag (name : String) {names : List String} {rest : String} :
      Declares names rest →
        Declares (name :: names) (bodyLine 1 ("static bool " ++ name ++ ";") ++ rest)
  /-- A statement that declares nothing in the body itself. -/
  | statement (text : String) {names : List String} {rest : String} :
      Declares names rest → Declares names (bodyLine 1 text ++ rest)
  | guarded (condition : String) (inner : List String) {names : List String} {rest : String} :
      Declares names rest →
        Declares names (bodyLine 1 ("if (" ++ condition ++ ") \x7b") ++
          String.join (inner.map (bodyLine 2)) ++ bodyLine 1 "\x7d" ++ rest)

theorem Declares.append {names others : List String} {text rest : String}
    (h : Declares names text) (next : Declares others rest) :
    Declares (names ++ others) (text ++ rest) := by
  induction h with
  | nothing => simpa using next
  | value type name value _ ih =>
    rw [String.append_assoc]
    exact .value type name value ih
  | object type name arguments _ ih =>
    rw [String.append_assoc]
    exact .object type name arguments ih
  | flag name _ ih =>
    rw [String.append_assoc]
    exact .flag name ih
  | statement text _ ih =>
    rw [String.append_assoc]
    exact .statement text ih
  | guarded condition inner _ ih =>
    rw [String.append_assoc]
    exact .guarded condition inner ih

namespace HostFunction

variable (f : HostFunction) (c : Catalog) (settings : Settings)

/-- What stands behind the local of a struct: the flag of its diagnostic if the type is excluded,
and otherwise the host's copy. -/
def backing? (p : Param) : Option String :=
  match c.strategy f.name p with
  | .structIn =>
    if c.isExcluded p.type then some ("shown_" ++ f.localOf c settings p)
    else some ("local_" ++ f.localOf c settings p)
  | .direct | .mapMemory _ => none

def statusLocal? : Option String := f.returnType.map fun _ => settings.statusLocal

/-- The locals of the parameters and of the status. -/
def locals : List String :=
  f.params.map (f.localOf c settings) ++ (f.statusLocal? settings).toList

def backings : List String := f.params.filterMap (f.backing? c settings)

/-- All names that the body declares, in the order of its text. -/
def declaredNames : List String :=
  (f.params.flatMap fun p => (f.backing? c settings p).toList ++ [f.localOf c settings p]) ++
    (f.statusLocal? settings).toList

variable {f c settings}

theorem declares_null (settings : Settings) (function : String) (p : Param) :
    Declares ["shown_" ++ p.name, p.name] (Strategy.declareNull settings function p).text := by
  let flag := shownFlagName p.name
  let report := Literal.escape (function ++ ":" ++ p.type ++ " not implemented")
  have lines := Declares.flag flag <|
    .guarded ("!" ++ flag ++ " && " ++ p.guestValue)
      [settings.logFunction ++ "(\"" ++ report ++ "\");", flag ++ " = true;"] <|
    .value (p.type ++ "*") p.name "NULL" .nothing
  have negated (x : String) : "if (" ++ ("!" ++ x) = "if (!" ++ x := by simp [← String.append_assoc]
  simpa [Strategy.declareNull, String.append_assoc, negated, flag, report, shownFlagName] using lines

theorem declares_copy (settings : Settings) (p : Param) :
    Declares ["local_" ++ p.name, p.name] (Strategy.declareCopy settings p).text := by
  have lines := Declares.object (marshalClassName p.type) (localCopyName p.name)
      (settings.marshalContext ++ ", " ++ settings.memoryAccessor ++ ", " ++ p.guestValue) <|
    .value (p.type ++ "*") p.name ("&" ++ localCopyName p.name ++ ".s") .nothing
  have address (x : String) : " = " ++ ("&" ++ x) = " = &" ++ x := by simp [← String.append_assoc]
  simpa [Strategy.declareCopy, String.append_assoc, address, localCopyName] using lines

theorem declares_direct {p : Param} {d : Declaration} (h : Strategy.declareDirect p = .ok d) :
    Declares [p.name] d.text := by
  unfold Strategy.declareDirect at h
  split at h
  · cases h
  · cases h
    let type := typeSpelling p.type p.isPointer
    have line := Declares.value type p.name ("(" ++ type ++ ")" ++ p.guestValue) .nothing
    have cast (x : String) : " = " ++ ("(" ++ x) = " = (" ++ x := by simp [← String.append_assoc]
    simpa [String.append_assoc, cast, type] using line

theorem declares_range {p : Param} {d : Declaration} (h : Strategy.declareRange settings p = .ok d) :
    Declares [d.param.name] d.text := by
  unfold Strategy.declareRange at h
  split at h
  · cases h
  · cases h
    have line (q : Param) := Declares.value (typeSpelling q.type q.isPointer) q.name "NULL" .nothing
    simpa [String.append_assoc] using line _

/-- A parameter's declaration declares its local, after what stands behind it. -/
theorem declares_declaration {p : Param} {d : Declaration}
    (h : (c.strategy f.name p).declare c settings f.name p = .ok d) :
    Declares ((f.backing? c settings p).toList ++ [f.localOf c settings p]) d.text := by
  cases chosen : c.strategy f.name p with
  | direct =>
    rw [chosen] at h
    simpa [backing?, localOf, chosen] using declares_direct h
  | structIn =>
    rw [chosen] at h
    rcases (Strategy.declareStruct_eq_ok h).2 with ⟨excluded, rfl⟩ | ⟨included, _, rfl⟩
    · simpa [backing?, localOf, chosen, excluded] using declares_null settings f.name p
    · simpa [backing?, localOf, chosen, included] using declares_copy settings p
  | mapMemory range =>
    rw [chosen] at h
    have name : d.param.name = f.localOf c settings p := by
      rw [Strategy.declareRange_param range h]
      cases double : p.isDoublePointer <;> simp [Strategy.received, localOf, chosen, double]
    simpa [backing?, chosen, name] using declares_range h

theorem declares_declarations {params : List Param} {ds : List Declaration}
    (declared : List.Forall₂
      (fun p d => (c.strategy f.name p).declare c settings f.name p = .ok d) params ds) :
    Declares (params.flatMap fun p => (f.backing? c settings p).toList ++ [f.localOf c settings p])
      (String.join (ds.map (·.text))) := by
  induction declared with
  | nil => exact .nothing
  | cons first _ ih =>
    rw [List.flatMap_cons, List.map_cons, String.join_cons]
    exact (declares_declaration first).append ih

theorem declares_published (settings : Settings) (status : CallStatus) (p : Param) (s : Strategy) :
    Declares [] (s.publish settings status p) := by
  cases s with
  | direct => exact .nothing
  | structIn => exact .nothing
  | mapMemory range =>
    let statement := Strategy.registration settings range p.name
    cases status with
    | checked =>
      have lines := Declares.guarded (settings.statusLocal ++ " == " ++ settings.successValue)
        [statement] .nothing
      simpa [Strategy.publish, String.append_assoc, statement] using lines
    | succeeded => simpa [Strategy.publish, statement] using Declares.statement statement .nothing
    | failed => exact .nothing

theorem declares_nothing_published (settings : Settings) (status : CallStatus)
    (params : List Param) (strategies : List Strategy) :
    Declares [] (String.join
      (List.zipWith (fun p s => s.publish settings status p) params strategies)) := by
  induction params generalizing strategies with
  | nil => exact .nothing
  | cons p params ih =>
    cases strategies with
    | nil => exact .nothing
    | cons s strategies =>
      rw [List.zipWith_cons_cons, String.join_cons]
      exact (declares_published settings status p s).append (ih strategies)

theorem declares_call (f : HostFunction) (settings : Settings) (params : List Param) :
    Declares (f.statusLocal? settings).toList (bodyLine 1 (f.nativeCall settings params)) := by
  let call := settings.dispatchPrefix ++ f.name ++ "(" ++
    ", ".intercalate (params.map (·.hostValue)) ++ ")"
  unfold statusLocal? nativeCall
  cases f.returnType with
  | none => simpa [call, String.append_assoc] using Declares.statement (call ++ ";") .nothing
  | some type =>
    simpa [call, String.append_assoc] using Declares.value type settings.statusLocal call .nothing

/-- The body of a complete wrapper declares these names in this order. -/
theorem declares_body {ds : List Declaration} (settings : Settings)
    (strategies : List Strategy)
    (declared : List.Forall₂
      (fun p d => (c.strategy f.name p).declare c settings f.name p = .ok d) f.params ds) :
    ∃ body, f.wrapperText settings strategies ds =
        "// " ++ f.name ++ "\n" ++ "void " ++ settings.wrapperPrefix ++ f.name ++
          "(CPU* cpu) \x7b\n" ++ body ++ "\x7d\n" ∧
      Declares (f.declaredNames c settings) body := by
  have declarations := declares_declarations declared
  have call := declares_call f settings (ds.map (·.param))
  have published := declares_nothing_published settings f.callStatus (ds.map (·.param)) strategies
  have returned : Declares []
      (if f.returnType.isSome then bodyLine 1 (settings.returnStatement settings.statusLocal)
        else "") := by
    split
    · simpa using Declares.statement (settings.returnStatement settings.statusLocal) .nothing
    · exact .nothing
  have ending := call.append (published.append returned)
  rw [List.append_nil, List.append_nil] at ending
  refine ⟨_, ?_, declarations.append ending⟩
  unfold wrapperText
  simp only [String.append_assoc]

/-- Where no fault is found, no two parameters have one local, and none has the status local's. -/
theorem localOf_of_admitted {params : List Param} {seen : List String}
    (h : f.localFault? settings seen (params.map fun p => (p, c.strategy f.name p)) = none) :
    (params.map (f.localOf c settings)).Nodup ∧
      ∀ p ∈ params, f.localOf c settings p ∉ seen ∧
        f.statusLocal? settings ≠ some (f.localOf c settings p) := by
  induction params generalizing seen with
  | nil => simp
  | cons p params ih =>
    rw [List.map_cons, localFault?, localName_chosen] at h
    split at h
    · cases h
    · rename_i apart
      split at h
      · cases h
      · rename_i fresh
        obtain ⟨distinct, others⟩ := ih h
        have own : f.statusLocal? settings ≠ some (f.localOf c settings p) := by
          cases result : f.returnType with
          | none => simp [statusLocal?, result]
          | some type =>
            intro same
            rw [statusLocal?, result] at same
            exact apart (by simp [result, Option.some.inj same])
        have unseen : f.localOf c settings p ∉ seen :=
          fun member => fresh (List.contains_iff_mem.2 member)
        refine ⟨?_, List.forall_mem_cons.2 ⟨⟨unseen, own⟩, fun q member => ?_⟩⟩
        · rw [List.map_cons, List.nodup_cons]
          refine ⟨fun again => ?_, distinct⟩
          obtain ⟨q, member, same⟩ := List.mem_map.1 again
          exact (others q member).1 (same ▸ List.mem_cons_self ..)
        · obtain ⟨unseen, free⟩ := others q member
          exact ⟨fun before => unseen (List.mem_cons_of_mem _ before), free⟩

theorem localFault?_eq_none {params : List Param} {seen : List String}
    (distinct : (params.map (f.localOf c settings)).Nodup)
    (apart : ∀ p ∈ params, f.localOf c settings p ∉ seen ∧
      f.statusLocal? settings ≠ some (f.localOf c settings p)) :
    f.localFault? settings seen (params.map fun p => (p, c.strategy f.name p)) = none := by
  induction params generalizing seen with
  | nil => rfl
  | cons p params ih =>
    rw [List.map_cons, List.nodup_cons] at distinct
    obtain ⟨⟨unseen, own⟩, others⟩ := List.forall_mem_cons.1 apart
    have free : ¬ (f.returnType.isSome && f.localOf c settings p == settings.statusLocal) = true := by
      intro taken
      obtain ⟨result, same⟩ := Bool.and_eq_true_iff.1 taken
      obtain ⟨type, found⟩ := Option.isSome_iff_exists.1 result
      exact own (by rw [statusLocal?, found, eq_of_beq same]; rfl)
    have fresh : ¬ seen.contains (f.localOf c settings p) = true :=
      fun member => unseen (List.contains_iff_mem.1 member)
    rw [List.map_cons, localFault?, localName_chosen, if_neg free, if_neg fresh]
    refine ih distinct.2 fun q member => ⟨?_, (others q member).2⟩
    rw [List.mem_cons, not_or]
    exact ⟨fun same => distinct.1 (same ▸ List.mem_map_of_mem member), (others q member).1⟩

theorem localFault?_of_refusal (h : f.refusal? c settings = none) :
    f.localFault? settings [] (f.params.map fun p => (p, c.strategy f.name p)) = none := by
  unfold refusal? at h
  cases signature : f.signatureFault? settings with
  | none => simpa [signature, chosen] using h
  | some fault => simp [signature] at h

theorem nodup_locals (h : f.refusal? c settings = none) : (f.locals c settings).Nodup := by
  obtain ⟨distinct, free⟩ := localOf_of_admitted (localFault?_of_refusal h)
  refine List.nodup_append.2 ⟨distinct, by cases f.statusLocal? settings <;> simp, ?_⟩
  rintro name own status declared rfl
  obtain ⟨p, member, rfl⟩ := List.mem_map.1 own
  exact (free p member).2 (Option.mem_toList.1 declared)

/-- A backing's name tells which local it belongs to. -/
theorem backing?_eq_some {p : Param} {name : String} (h : f.backing? c settings p = some name) :
    name = "shown_" ++ f.localOf c settings p ∨ name = "local_" ++ f.localOf c settings p := by
  unfold backing? at h
  split at h
  · split at h
    · exact .inl (Option.some.inj h).symm
    · exact .inr (Option.some.inj h).symm
  · cases h
  · cases h

theorem head_backing {p : Param} {name : String} (h : f.backing? c settings p = some name) :
    name.toList.head? = some 's' ∨ name.toList.head? = some 'l' := by
  rcases backing?_eq_some h with rfl | rfl
  · exact .inl (by simp)
  · exact .inr (by simp)

theorem nodup_backings (h : f.refusal? c settings = none) : (f.backings c settings).Nodup := by
  have distinct := (localOf_of_admitted (localFault?_of_refusal h)).1
  refine List.pairwise_filterMap.2 ((List.pairwise_map.1 distinct).imp ?_)
  intro p q apart name first other second same
  subst same
  rcases backing?_eq_some first with rfl | rfl
  · rcases backing?_eq_some second with same | same
    · exact apart (by simpa using same)
    · exact absurd (congrArg (·.toList.head?) same) (by simp)
  · rcases backing?_eq_some second with same | same
    · exact absurd (congrArg (·.toList.head?) same) (by simp)
    · exact apart (by simpa using same)

theorem perm_declaredNames (f : HostFunction) (c : Catalog) (settings : Settings) :
    (f.declaredNames c settings).Perm (f.locals c settings ++ f.backings c settings) := by
  have params : (f.params.flatMap fun p =>
      (f.backing? c settings p).toList ++ [f.localOf c settings p]).Perm
        (f.params.map (f.localOf c settings) ++ f.params.filterMap (f.backing? c settings)) := by
    induction f.params with
    | nil => exact .refl _
    | cons p params ih =>
      rw [List.flatMap_cons, List.map_cons]
      cases h : f.backing? c settings p with
      | none =>
        rw [List.filterMap_cons_none h]
        exact ih.cons _
      | some name =>
        rw [List.filterMap_cons_some h]
        have middle : (f.localOf c settings p :: params.map (f.localOf c settings) ++
            name :: params.filterMap (f.backing? c settings)).Perm _ := List.perm_middle
        exact ((ih.cons _).cons name).trans middle.symm
  have whole := params.append_right (f.statusLocal? settings).toList
  rw [List.append_assoc] at whole
  rw [locals, List.append_assoc]
  exact whole.trans (List.perm_append_comm.append_left _)

end HostFunction

/-- What the body of a complete wrapper declares, and when all of it is distinct and apart from the
wrapper's argument. -/
theorem Generator.emit_declared_names (g : Generator) (f : HostFunction) (text : String)
    (complete : (g.emit f).result = .ok text) :
    (∃ body, text = "// " ++ f.name ++ "\n" ++ "void " ++ g.settings.wrapperPrefix ++ f.name ++
        "(CPU* cpu) \x7b\n" ++ body ++ "\x7d\n" ∧
      Declares (f.declaredNames g.catalog g.settings) body) ∧
    (f.locals g.catalog g.settings).Nodup ∧ (f.backings g.catalog g.settings).Nodup ∧
    (("cpu" :: f.declaredNames g.catalog g.settings).Nodup ↔
      ∀ name ∈ f.locals g.catalog g.settings,
        name ≠ "cpu" ∧ name ∉ f.backings g.catalog g.settings) := by
  rw [emit_result] at complete
  obtain ⟨declared, rfl⟩ := HostFunction.attempt_eq_ok complete
  have admitted : f.refusal? g.catalog g.settings = none := by
    rcases f.attempt_cases g.catalog g.settings with
      ⟨fault, _, attempted⟩ | ⟨ds, fault, _, _, attempted⟩ | ⟨ds, passed, _, _⟩
    · rw [attempted] at complete
      cases complete
    · rw [attempted] at complete
      cases complete
    · exact passed
  have locals := HostFunction.nodup_locals admitted
  have backings := HostFunction.nodup_backings admitted
  refine ⟨HostFunction.declares_body g.settings _ declared, locals, backings, ?_⟩
  rw [((f.perm_declaredNames g.catalog g.settings).cons "cpu").nodup_iff, List.nodup_cons,
    List.mem_append, List.nodup_append]
  constructor
  · rintro ⟨free, _, _, apart⟩ name member
    exact ⟨fun same => free (.inl (same ▸ member)), fun backing => apart name member name backing rfl⟩
  · intro apart
    refine ⟨?_, locals, backings, fun name member other backing same => ?_⟩
    · rintro (member | backing)
      · exact (apart "cpu" member).1 rfl
      · obtain ⟨p, _, named⟩ := List.mem_filterMap.1 backing
        rcases HostFunction.head_backing named with h | h <;> cases h
    · exact (apart name member).2 (same ▸ backing)

def structHost : Generator := { catalog := { types := [⟨"T", .struct⟩], excluded := ["X"] } }

/-- Among the parameters are a struct and a parameter named like the struct's copy. -/
def copyNameTaken : HostFunction :=
  { name := "vkF"
    params := [
      { name := "local_a", type := "uint32_t", guestValue := "ARG1", hostValue := "local_a" },
      { name := "a", type := "T", isPointer := true, guestValue := "ARG2", hostValue := "a" }] }

/-- A wrapper is complete although its body declares a name twice. -/
theorem declared_twice_copyNameTaken :
    (structHost.emit copyNameTaken).result = .ok (
      "// vkF\n" ++
      "void boxed_vkF(CPU* cpu) \x7b\n" ++
      "    uint32_t local_a = (uint32_t)ARG1;\n" ++
      "    MarshalT local_a(pBoxedInfo, cpu->memory, ARG2);\n" ++
      "    T* a = &local_a.s;\n" ++
      "    pBoxedInfo->pvkF(local_a, a);\n" ++
      "\x7d\n") ∧
    copyNameTaken.declaredNames structHost.catalog structHost.settings =
      ["local_a", "local_a", "a"] ∧
    ¬ (copyNameTaken.declaredNames structHost.catalog structHost.settings).Nodup := by
  have names : copyNameTaken.declaredNames structHost.catalog structHost.settings =
      ["local_a", "local_a", "a"] := by decide +kernel
  have twice : ¬ ["local_a", "local_a", "a"].Nodup := by decide
  exact ⟨rfl, names, names ▸ twice⟩

/-- A struct, a type that is excluded, and a result. -/
def namesApart : HostFunction :=
  { name := "vkG"
    returnType := some "VkResult"
    params := [
      { name := "a", type := "T", isPointer := true, guestValue := "ARG1", hostValue := "a" },
      { name := "b", type := "X", isPointer := true, guestValue := "ARG2", hostValue := "b" }] }

theorem emit_declared_names_namesApart :
    ∃ text, (structHost.emit namesApart).result = .ok text ∧
      (∃ body, text = "// vkG\nvoid boxed_vkG(CPU* cpu) \x7b\n" ++ body ++ "\x7d\n" ∧
        Declares ["local_a", "a", "shown_b", "b", "result"] body) ∧
      ("cpu" :: namesApart.declaredNames structHost.catalog structHost.settings).Nodup := by
  have wrapped : (structHost.emit namesApart).result.isOk = true := by decide
  have names : namesApart.declaredNames structHost.catalog structHost.settings =
      ["local_a", "a", "shown_b", "b", "result"] := by decide
  cases complete : (structHost.emit namesApart).result with
  | error fault =>
    rw [complete] at wrapped
    cases wrapped
  | ok text =>
    obtain ⟨declares, _, _, apart⟩ := structHost.emit_declared_names namesApart text complete
    rw [names] at declares
    exact ⟨text, rfl, declares, apart.2 (by decide)⟩

end HostCall
