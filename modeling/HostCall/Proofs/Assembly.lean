import HostCall.Proofs.Emission

/-!
How a wrapper's text is put together. Declaring parameters one after another, each by the generator
that the one before left, gives what each of them gives when it is declared alone, so the text is
the fragments of the parameters in order, with the native call between the two passes over them.
-/
namespace HostCall

theorem bodyLine_one (statement : String) : bodyLine 1 statement = "    " ++ statement ++ "\n" := by
  simp [bodyLine, String.join_cons]

theorem bodyLine_two (statement : String) :
    bodyLine 2 statement = "        " ++ statement ++ "\n" := by
  simp only [bodyLine, List.replicate, String.join_cons, String.join_nil]
  rfl

theorem exists_of_forall₂ {α β : Type} {R : α → β → Prop} {xs : List α} {ys : List β} {x : α}
    (h : List.Forall₂ R xs ys) (member : x ∈ xs) : ∃ y ∈ ys, R x y := by
  induction h with
  | nil => cases member
  | cons first _ ih =>
    rcases List.mem_cons.1 member with rfl | later
    · exact ⟨_, List.mem_cons_self, first⟩
    · obtain ⟨y, found, related⟩ := ih later
      exact ⟨y, List.mem_cons_of_mem _ found, related⟩

namespace Generator

variable {g : Generator} {function : Signature}

/-- A declaration looks at no more of the generator than its catalog and settings. -/
theorem declare_eq_ok_iff {s : Strategy} {p : Param} {d : Declaration} :
    (g.declare s function p).result = .ok d ↔
      s.declare g.catalog g.settings function.name p = .ok d := by
  unfold declare
  cases s.declare g.catalog g.settings function.name p <;> simp

theorem declare_generator_of_ok {s : Strategy} {p : Param} {d : Declaration}
    (h : (g.declare s function p).result = .ok d) :
    (g.declare s function p).generator = (g.record function.name d).1 := by
  rw [declare_eq_ok_iff] at h
  simp [declare, h]

theorem declare_generator_of_error {s : Strategy} {p : Param} {fault : Unsupported}
    (h : (g.declare s function p).result = .error fault) :
    (g.declare s function p).generator = g := by
  unfold declare at h ⊢
  cases outcome : s.declare g.catalog g.settings function.name p with
  | error obstacle => rfl
  | ok d =>
    rw [outcome] at h
    cases h

theorem record_frame (g : Generator) (function : String) (d : Declaration) :
    (g.record function d).1.catalog = g.catalog ∧
      (g.record function d).1.settings = g.settings := by
  rw [record_generator]
  exact ⟨rfl, rfl⟩

/-- Parameters declared one after another, each by the generator that the one before left. -/
inductive DeclaredInTurn (function : Signature) :
    Generator → List (Param × Strategy) → List Declaration → Generator → Prop where
  | nil {g : Generator} : DeclaredInTurn function g [] [] g
  | cons {g last : Generator} {p : Param} {s : Strategy} {d : Declaration}
      {rest : List (Param × Strategy)} {ds : List Declaration} :
      (g.declare s function p).result = .ok d →
      DeclaredInTurn function (g.declare s function p).generator rest ds last →
      DeclaredInTurn function g ((p, s) :: rest) (d :: ds) last

/-- No declaration stands in the way of another: in turn they come out as they do alone. -/
theorem declaredInTurn_of_alone {rest : List (Param × Strategy)} {ds : List Declaration}
    (alone : List.Forall₂ (fun x d => x.2.declare g.catalog g.settings function.name x.1 = .ok d)
      rest ds) : DeclaredInTurn function g rest ds (g.recordAll function.name ds).1 := by
  induction rest generalizing g ds with
  | nil =>
    cases alone
    exact .nil
  | cons x rest ih =>
    cases alone with
    | @cons _ d _ ds first others =>
      have declared := declare_eq_ok_iff.2 first
      have frame := record_frame g function.name d
      have tail := ih (g := (g.record function.name d).1) (by rwa [frame.1, frame.2])
      apply DeclaredInTurn.cons declared
      rw [declare_generator_of_ok declared]
      exact tail

variable {f : HostFunction}

/-- The line that calls the native function with the declared parameters. -/
def callLine (g : Generator) (f : HostFunction) (params : List Param) : String :=
  "    " ++
    (match f.returnType with
      | some type => type ++ " " ++ g.settings.statusLocal ++ " = "
      | none => "") ++
    g.settings.dispatchPrefix ++ f.name ++ "(" ++ ", ".intercalate (params.map (·.hostValue)) ++
    ");\n"

theorem bodyLine_nativeCall (g : Generator) (f : HostFunction) (params : List Param) :
    bodyLine 1 (f.nativeCall g.settings params) = g.callLine f params := by
  rw [bodyLine_one]
  unfold HostFunction.nativeCall callLine
  cases f.returnType with
  | none => simp [String.append_assoc]
  | some type => simp [String.append_assoc]

/-- The line that hands the result to the guest, where there is one. -/
def returnLine (g : Generator) (f : HostFunction) : String :=
  match f.returnType with
  | some _ => "    " ++ g.settings.returnStatement g.settings.statusLocal ++ "\n"
  | none => ""

theorem returnLine_eq (g : Generator) (f : HostFunction) :
    (if f.returnType.isSome then bodyLine 1 (g.settings.returnStatement g.settings.statusLocal)
      else "") = g.returnLine f := by
  unfold returnLine
  cases f.returnType with
  | none => rfl
  | some type => simp [bodyLine_one]

/-- The lines with which a parameter's result reaches the guest, by the parameter's local. -/
def publication (g : Generator) (f : HostFunction) (pointer : String) : Strategy → String
  | .direct | .structIn => ""
  | .mapMemory range =>
    let statement := Strategy.registration g.settings range pointer
    match f.callStatus with
    | .failed => ""
    | .succeeded => "    " ++ statement ++ "\n"
    | .checked =>
      "    " ++ "if (" ++ g.settings.statusLocal ++ " == " ++ g.settings.successValue ++ ") \x7b" ++
        "\n" ++
      "        " ++ statement ++ "\n" ++
      "    " ++ "\x7d" ++ "\n"

theorem publish_eq_publication (g : Generator) (f : HostFunction) (q : Param) (s : Strategy) :
    s.publish g.settings f.callStatus q = g.publication f q.name s := by
  cases s with
  | direct => rfl
  | structIn => rfl
  | mapMemory range =>
    simp only [Strategy.publish, publication]
    cases f.callStatus with
    | checked => simp only [bodyLine_one, bodyLine_two, String.append_assoc]
    | succeeded => exact bodyLine_one _
    | failed => rfl

/-- The parts of a wrapper's text, one after the other. -/
def assembled (g : Generator) (f : HostFunction) (ds : List Declaration) : String :=
  "// " ++ f.name ++ "\n" ++
  "void " ++ g.settings.wrapperPrefix ++ f.name ++ "(CPU* cpu) \x7b\n" ++
  String.join (ds.map (·.text)) ++
  g.callLine f (ds.map (·.param)) ++
  String.join (List.zipWith (fun p d =>
    (g.catalog.strategy f.name p).publish g.settings f.callStatus d.param) f.params ds) ++
  g.returnLine f ++
  "\x7d\n"

theorem wrapperText_eq_assembled (g : Generator) (f : HostFunction) (ds : List Declaration) :
    f.wrapperText g.settings (f.params.map (g.catalog.strategy f.name)) ds = g.assembled f ds := by
  have published : List.zipWith (fun q s => Strategy.publish g.settings f.callStatus q s)
      (ds.map (·.param)) (f.params.map (g.catalog.strategy f.name)) =
      List.zipWith (fun p d =>
        (g.catalog.strategy f.name p).publish g.settings f.callStatus d.param) f.params ds := by
    rw [List.zipWith_map, List.zipWith_comm]
  unfold HostFunction.wrapperText assembled
  simp only [bodyLine_nativeCall, returnLine_eq, published]

end Generator

def mapper : Generator :=
  { catalog :=
      { types := [⟨"VkMemoryMapInfo", .struct⟩, ⟨"VkDevice", .handle⟩]
        mappings := [{ function := "vkMapMemory2", param := "ppData", handle := "info->memory"
                       size := "info->size", guestOut := some "ARG3" }] } }

def mapMemory : HostFunction :=
  { name := "vkMapMemory2"
    returnType := some "VkResult"
    params := [
      { name := "device", type := "VkDevice", guestValue := "ARG1", hostValue := "device" },
      { name := "info", type := "VkMemoryMapInfo", isPointer := true, guestValue := "ARG2"
        hostValue := "info" },
      { name := "ppData", type := "void", isPointer := true, isDoublePointer := true
        guestValue := "ARG3", hostValue := "ppData" }] }

end HostCall
