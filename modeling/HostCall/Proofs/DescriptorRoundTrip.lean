import HostCall.Proofs.DescriptorText

/-!
Reading descriptor files and writing them undo each other: a text is read as the descriptors that it
writes, and whatever is read is normal, so that writing it gives a text from which it is read again.
-/
namespace HostCall

open Json

theorem Param.isNormal_normalize (p : Param) : p.normalize.IsNormal := by
  unfold normalize IsNormal
  split
  · exact id
  · next stated => exact fun missing => absurd missing stated

theorem Signature.result_of_ofMembers {members : List (Option String × Value)} {f : Signature}
    (read : ofMembers members = .ok f) : f.returnType ≠ some "void" := by
  have keeps : ∀ field ∈ fields, Keeps (·.returnType ≠ some (some "void")) field := by
    simp only [fields, List.forall_mem_cons]
    refine ⟨keeps_ofReader ?_, keeps_ofReader ?_, keeps_ofReader ?_, by simp⟩
    · exact fun _ _ _ _ holds => holds
    · intro v x d _ _
      cases x with
      | none => simp [nonVoid]
      | some type => by_cases void : type = "void" <;> simp [nonVoid, void]
    · exact fun _ _ _ _ holds => holds
  obtain ⟨draft, inside, finished⟩ := Reading.bind_eq_ok.1 read
  obtain ⟨name, _, same⟩ := Reading.bind_eq_ok.1 finished
  have kept := readMembers_invariant keeps (by simp) inside
  cases same
  cases stated : draft.returnType with
  | none => simp
  | some type =>
    rw [stated] at kept
    exact fun same => kept (congrArg some same)

theorem HostFunction.result_of_ofValue {v : Value} {f : HostFunction} (read : ofValue v = .ok f) :
    f.returnType ≠ some "void" := by
  unfold ofValue at read
  split at read
  · obtain ⟨⟨params, members⟩, _, ended⟩ := Reading.bind_eq_ok.1 read
    dsimp only at ended
    split at ended
    · obtain ⟨signature, others, same⟩ := Reading.bind_eq_ok.1 ended
      cases same
      exact Signature.result_of_ofMembers others
    · cases ended
  · exact absurd read (Value.refuse_ne_ok _ _)

namespace Descriptors

variable {d : Descriptors}

theorem result_of_ofValue {v : Value} (read : ofValue v = .ok d) :
    ∀ f ∈ d.functions, f.returnType ≠ some "void" := by
  have keeps : ∀ field ∈ fields,
      Keeps (fun draft => ∀ f ∈ draft.functions.getD [], f.returnType ≠ some "void") field := by
    simp only [fields, List.forall_mem_cons]
    refine ⟨keeps_ofReader ?_, keeps_ofReader ?_, by simp⟩
    · exact fun _ _ _ _ holds => holds
    · intro v fs draft value _ f listed
      obtain ⟨item, ofItem⟩ := mem_readList value f listed
      exact HostFunction.result_of_ofValue ofItem
  have closes : ∀ (draft : DescriptorsDraft) (e : Descriptors),
      (∀ f ∈ draft.functions.getD [], f.returnType ≠ some "void") → ofDraft draft = .ok e →
      ∀ f ∈ e.functions, f.returnType ≠ some "void" := by
    intro draft e holds closed
    cases closed
    exact holds
  exact readRecord_invariant keeps closes (by simp) read

theorem isNormal_of_ofJson {text : String} (read : ofJson text = .ok d) : d.IsNormal := by
  have steps : ofJson text = ofValue (Value.ofText text).1 >>= fun e =>
      if (Value.ofText text).2 then pure e.normalize else .malformed := rfl
  rw [steps] at read
  obtain ⟨e, value, ended⟩ := Reading.bind_eq_ok.1 read
  split at ended
  · cases ended
    intro f listed
    obtain ⟨g, known, rfl⟩ := List.mem_map.1 listed
    refine ⟨result_of_ofValue value g known, fun p inside => ?_⟩
    obtain ⟨q, _, rfl⟩ := List.mem_map.1 inside
    exact q.isNormal_normalize
  · cases ended

end Descriptors

def TypeEntry.toValue (t : TypeEntry) : Value :=
  .ofMembers [("name", .text t.name), ("category", .text t.category.keyword)]

def Param.toValue (p : Param) : Value :=
  .ofMembers [("name", .text p.name), ("type", .text p.type), ("is_pointer", .bool p.isPointer),
    ("is_double_pointer", .bool p.isDoublePointer), ("param_arg", .text p.guestValue),
    ("name_in_function", .text p.hostValue)]

def HostFunction.toValue (f : HostFunction) : Value :=
  .ofMembers [("params", .array (f.params.map Param.toValue) true), ("name", .text f.name),
    ("return_type", f.returnType.elim .null .text),
    ("status", f.status.elim .null fun status => .text status.keyword)]

def Descriptors.toValue (d : Descriptors) : Value :=
  .ofMembers [("types", .array (d.types.map TypeEntry.toValue) true),
    ("functions", .array (d.functions.map HostFunction.toValue) true)]

def Descriptors.write (d : Descriptors) : String := d.toValue.write

theorem TypeEntry.writes_toValue (t : TypeEntry) : t.Writes t.toValue :=
  Value.isObjectOf_ofMembers (by simp [members]) (.cons ⟨rfl, rfl⟩ (.cons ⟨rfl, rfl⟩ .nil))

theorem Param.writes_toValue (p : Param) : p.Writes p.toValue := by
  left
  apply Value.isObjectOf_ofMembers (by simp [members])
  exact .cons ⟨rfl, rfl⟩ (.cons ⟨rfl, rfl⟩ (.cons ⟨rfl, rfl⟩ (.cons ⟨rfl, rfl⟩
    (.cons ⟨rfl, rfl⟩ (.cons ⟨rfl, rfl⟩ .nil)))))

theorem Signature.writes_returnType (f : Signature) :
    f.WritesReturnType (f.returnType.elim .null .text) := by
  unfold WritesReturnType
  cases f.returnType with
  | none => exact .inl rfl
  | some type => rfl

theorem Signature.writes_status (f : Signature) :
    f.WritesStatus (f.status.elim .null fun status => .text status.keyword) := by
  unfold WritesStatus
  cases f.status <;> rfl

theorem HostFunction.writes_toValue (f : HostFunction) : f.Writes f.toValue := by
  apply Value.isObjectOf_ofMembers (by simp [members, paramsMember, Signature.members])
  refine .cons ⟨rfl, _, rfl, ?_⟩ (.cons ⟨rfl, rfl⟩
    (.cons ⟨rfl, f.writes_returnType⟩ (.cons ⟨rfl, f.writes_status⟩ .nil)))
  exact List.forall₂_map_right_iff.2 (List.forall₂_same.2 fun p _ => p.writes_toValue)

theorem Descriptors.writes_toValue (d : Descriptors) : d.Writes d.toValue := by
  apply Value.isObjectOf_ofMembers (by simp [members, typesMember, functionsMember])
  refine .cons ⟨rfl, _, rfl, ?_⟩ (.cons ⟨rfl, _, rfl, ?_⟩ .nil)
  · exact List.forall₂_map_right_iff.2 (List.forall₂_same.2 fun t _ => t.writes_toValue)
  · exact List.forall₂_map_right_iff.2 (List.forall₂_same.2 fun f _ => f.writes_toValue)

theorem Descriptors.isWritten_write (d : Descriptors) : d.IsWritten d.write :=
  ⟨d.toValue, d.writes_toValue, d.writes_toValue.isPlain.spells_write⟩

namespace Descriptors

/-- Reading undoes writing, whatever way of writing was taken; and what is read from any text can be
written again, and is read from whatever writes it. -/
theorem ofJson_undoes_writing (text : String) (d : Descriptors) :
    (d.IsNormal → d.IsWritten text → ofJson text = .ok d) ∧
    (ofJson text = .ok d →
      d.IsNormal ∧ d.IsWritten d.write ∧ ∀ again, d.IsWritten again → ofJson again = .ok d) := by
  refine ⟨fun normal written => ofJson_written normal written, fun read => ?_⟩
  have normal := isNormal_of_ofJson read
  exact ⟨normal, d.isWritten_write, fun again written => ofJson_written normal written⟩

end Descriptors

def oddParam : Param := { name := "p", type := "A😀", guestValue := "ARG1", hostValue := "p" }

def oddFunction : HostFunction := { name := "vkA", params := [oddParam] }

def oddDescriptors : Descriptors := { functions := [oddFunction] }

def oddParamValue : Value :=
  .ofMembers [("param_arg", .text "ARG1"), ("type", .text "A😀"), ("pad", .bool true),
    ("name", .text "p"), ("name_in_function", .text "")]

def oddFunctionValue : Value :=
  .ofMembers [("return_type", .text "void"), ("params", .array [oddParamValue] true),
    ("name", .text "vkA")]

def oddValue : Value :=
  .ofMembers [("note", .null), ("functions", .array [oddFunctionValue] true)]

/-- Members are out of order, left out, stated though they need not be, escaped, and unknown. -/
def oddText : String :=
  " \x7b\"note\":null,\"functions\":[\x7b\"return_type\":\"void\",\"params\":[\x7b\"param_arg\":\"ARG1\"," ++
  "\"type\":\"\\u0041\\uD83d\\ude00\",\"pad\":true,\"name\":\"p\",\"name_in_function\":\"\"\x7d]," ++
  "\"name\":\"vkA\"\x7d]\x7d"

theorem writes_oddParamValue : oddParam.Writes oddParamValue := by
  refine .inr ⟨rfl, _, rfl, ⟨?_, ?_, ?_⟩, ?_⟩ <;> simp [Param.members, oddParam]
  exact .bool true

theorem writes_oddFunctionValue : oddFunction.Writes oddFunctionValue := by
  have params : List.Forall₂ Param.Writes oddFunction.params [oddParamValue] :=
    .cons writes_oddParamValue .nil
  refine ⟨_, rfl, ⟨?_, ?_, ?_⟩, ?_⟩ <;>
    simp [HostFunction.members, HostFunction.paramsMember, Signature.members, params]
  all_goals simp [oddFunction, Signature.WritesReturnType]

theorem writes_oddValue : oddDescriptors.Writes oddValue := by
  have functions : List.Forall₂ HostFunction.Writes oddDescriptors.functions [oddFunctionValue] :=
    .cons writes_oddFunctionValue .nil
  refine ⟨_, rfl, ⟨?_, ?_, ?_⟩, ?_⟩ <;>
    simp [Descriptors.members, Descriptors.typesMember, Descriptors.functionsMember, functions]
  · exact .null
  · rfl

theorem spells_oddType :
    SpellsToken (.string (some "A😀")) ('"' :: ("\\u0041\\uD83d\\ude00".toList ++ ['"'])) := by
  have letter : SpellsUnit 'A'.toNat ['0', '0', '4', '1'] :=
    .digits (w := 0) (x := 0) (y := 4) (z := 1) (.inl rfl) (.inl rfl) (.inl rfl) (.inl rfl)
  have high : SpellsUnit (0xd800 + 0x3d) ['D', '8', '3', 'd'] :=
    .digits (w := 13) (x := 8) (y := 3) (z := 13) (.inr rfl) (.inl rfl) (.inl rfl) (.inl rfl)
  have low : SpellsUnit (0xdc00 + 0x200) ['d', 'e', '0', '0'] :=
    .digits (w := 13) (x := 14) (y := 0) (z := 0) (.inl rfl) (.inl rfl) (.inl rfl) (.inl rfl)
  have smile : SpellsChar '😀' _ := .pair rfl (by decide) (by decide) high low
  exact .string (.cons (.escaped letter) (.cons smile .nil))

theorem isWritten_oddText : oddDescriptors.IsWritten oddText := by
  refine ⟨oddValue, writes_oddValue, ?_⟩
  have spelled : ∀ t ∈ oddValue.tokens, t.HasSpelling := writes_oddValue.isPlain.hasSpelling
  have before := Token.spellsTokens_spell (oddValue.tokens.take 23) fun t member =>
    spelled t (List.mem_of_mem_take member)
  have after := Token.spellsTokens_spell (oddValue.tokens.drop 24) fun t member =>
    spelled t (List.mem_of_mem_drop member)
  have tokens : oddValue.tokens =
      oddValue.tokens.take 23 ++ .string (some "A😀") :: oddValue.tokens.drop 24 := by
    decide +kernel
  have text : oddText.toList =
      ' ' :: ((oddValue.tokens.take 23).flatMap Token.spell ++
        ('"' :: ("\\u0041\\uD83d\\ude00".toList ++ ['"']) ++
          (oddValue.tokens.drop 24).flatMap Token.spell)) := by
    decide +kernel
  rw [tokens, text]
  exact .blank (by simp) (before.append (.cons spells_oddType after))

theorem ofJson_undoes_writing_oddText :
    oddDescriptors.IsNormal ∧ oddDescriptors.IsWritten oddText ∧
      Descriptors.ofJson oddText = .ok oddDescriptors ∧
      Descriptors.ofJson oddDescriptors.write = .ok oddDescriptors := by
  have normal : oddDescriptors.IsNormal := by
    simp [Descriptors.IsNormal, HostFunction.IsNormal, Param.IsNormal, oddDescriptors, oddFunction,
      oddParam]
  obtain ⟨undoes, again⟩ := Descriptors.ofJson_undoes_writing oddText oddDescriptors
  have read := undoes normal isWritten_oddText
  obtain ⟨_, written, rewritten⟩ := again read
  exact ⟨normal, isWritten_oddText, read, rewritten _ written⟩

end HostCall
