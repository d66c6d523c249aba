import HostCall.DescriptorFile
import HostCall.Proofs.ObjectRecord

/-!
Descriptor files from the side of their writer: which members a type, a parameter, a function and a
file have, what may be left out, and what stands for the same thing. However normal descriptors are
written, these descriptors are read.
-/
namespace HostCall

open Json

/-- A parameter that is passed under some name, unless it has none itself. -/
def Param.IsNormal (p : Param) : Prop := p.hostValue = "" → p.name = ""

/-- A function whose missing result is not stated as `void`. -/
def HostFunction.IsNormal (f : HostFunction) : Prop :=
  f.returnType ≠ some "void" ∧ ∀ p ∈ f.params, p.IsNormal

def Descriptors.IsNormal (d : Descriptors) : Prop := ∀ f ∈ d.functions, f.IsNormal

namespace TypeEntry

def members (t : TypeEntry) : List Member := [
  { name := "name", Allows := (· = .text t.name), MayLack := False },
  { name := "category", Allows := (· = .text t.category.keyword), MayLack := False }]

def Writes (t : TypeEntry) (v : Value) : Prop := v.IsObjectOf t.members

end TypeEntry

namespace Param

def members (p : Param) : List Member := [
  { name := "name", Allows := (· = .text p.name), MayLack := False },
  { name := "type", Allows := (· = .text p.type), MayLack := False },
  { name := "is_pointer", Allows := (· = .bool p.isPointer), MayLack := p.isPointer = false },
  { name := "is_double_pointer", Allows := (· = .bool p.isDoublePointer)
    MayLack := p.isDoublePointer = false },
  { name := "param_arg", Allows := (· = .text p.guestValue), MayLack := False },
  { name := "name_in_function", Allows := (· = .text p.hostValue), MayLack := p.hostValue = "" }]

/-- A parameter that is passed under its own name may be written as one passed under none. -/
def Writes (p : Param) (v : Value) : Prop :=
  v.IsObjectOf p.members ∨
    p.hostValue = p.name ∧ v.IsObjectOf { p with hostValue := "" }.members

end Param

namespace Signature

def WritesReturnType (f : Signature) (v : Value) : Prop :=
  match f.returnType with
  | some type => v = .text type
  | none => v = .null ∨ v = .text "void"

def WritesStatus (f : Signature) (v : Value) : Prop :=
  match f.status with
  | some status => v = .text status.keyword
  | none => v = .null

def members (f : Signature) : List Member := [
  { name := "name", Allows := (· = .text f.name), MayLack := False },
  { name := "return_type", Allows := f.WritesReturnType, MayLack := f.returnType = none },
  { name := "status", Allows := f.WritesStatus, MayLack := f.status = none }]

end Signature

namespace HostFunction

def paramsMember (f : HostFunction) : Member :=
  { name := "params"
    Allows := fun v => ∃ items, v = .array items true ∧ List.Forall₂ Param.Writes f.params items
    MayLack := f.params = [] }

def members (f : HostFunction) : List Member := f.paramsMember :: f.toSignature.members

def Writes (f : HostFunction) (v : Value) : Prop := v.IsObjectOf f.members

end HostFunction

namespace Descriptors

def typesMember (d : Descriptors) : Member :=
  { name := "types"
    Allows := fun v => ∃ items, v = .array items true ∧ List.Forall₂ TypeEntry.Writes d.types items
    MayLack := d.types = [] }

def functionsMember (d : Descriptors) : Member :=
  { name := "functions"
    Allows := fun v =>
      ∃ items, v = .array items true ∧ List.Forall₂ HostFunction.Writes d.functions items
    MayLack := d.functions = [] }

def members (d : Descriptors) : List Member := [d.typesMember, d.functionsMember]

def Writes (d : Descriptors) (v : Value) : Prop := v.IsObjectOf d.members

def IsWritten (d : Descriptors) (text : String) : Prop :=
  ∃ v, d.Writes v ∧ SpellsTokens v.tokens text.toList

end Descriptors

theorem Category.ofValue_keyword (c : Category) : ofValue (.text c.keyword) = .ok c := by
  cases c <;> rfl

theorem CallStatus.ofValue_keyword (s : CallStatus) : ofValue (.text s.keyword) = .ok s := by
  cases s <;> rfl

namespace TypeEntry

variable {t : TypeEntry} {v : Value}

def part (t : TypeEntry) (names : String → Bool) : TypeDraft :=
  { name := given names "name" t.name, category := given names "category" t.category }

theorem fills (t : TypeEntry) : Fills fields t.members t.part where
  congr same := by
    simp only [members, List.forall_mem_cons] at same
    simp only [part, given, same]
  reads := by
    refine .cons ⟨rfl, ?_⟩ (.cons ⟨rfl, ?_⟩ .nil)
    · refine fillsIn_fixed rfl (fun _ => isSome_given) fun names => ?_
      simp only [part, given, String.reduceBEq, Bool.or_false, Bool.or_true, if_true]
    · refine fillsIn_fixed t.category.ofValue_keyword (fun _ => isSome_given) fun names => ?_
      simp only [part, given, String.reduceBEq, Bool.or_false, Bool.or_true, if_true]

theorem ofDraft_part {names : String → Bool} (name : names "name" = true)
    (category : names "category" = true) : ofDraft (t.part names) = .ok t := by
  simp only [part, given_of_present, name, category]
  rfl

theorem ofValue_written (h : t.Writes v) : ofValue v = .ok t := by
  obtain ⟨members, rfl, parts, lacks⟩ := h
  simp only [TypeEntry.members, List.forall_mem_cons, imp_false, not_not] at lacks
  obtain ⟨name, category, _⟩ := lacks
  refine (readRecord_parts t.fills parts "struct TypeInfo" ofDraft).trans (ofDraft_part ?_ ?_)
  · simpa using name
  · simpa using category

end TypeEntry

namespace Param

variable {p : Param} {v : Value}

def part (p : Param) (names : String → Bool) : ParamDraft :=
  { name := given names "name" p.name
    type := given names "type" p.type
    isPointer := given names "is_pointer" p.isPointer
    isDoublePointer := given names "is_double_pointer" p.isDoublePointer
    guestValue := given names "param_arg" p.guestValue
    hostValue := given names "name_in_function" p.hostValue }

theorem fills (p : Param) : Fills fields p.members p.part where
  congr same := by
    simp only [members, List.forall_mem_cons] at same
    simp only [part, given, same]
  reads := by
    refine .cons ⟨rfl, ?_⟩ (.cons ⟨rfl, ?_⟩ (.cons ⟨rfl, ?_⟩ (.cons ⟨rfl, ?_⟩ (.cons ⟨rfl, ?_⟩
      (.cons ⟨rfl, ?_⟩ .nil)))))
    all_goals
      refine fillsIn_fixed rfl (fun _ => isSome_given) fun names => ?_
      simp only [part, given, String.reduceBEq, Bool.or_false, Bool.or_true, if_true]

theorem ofDraft_part {names : String → Bool} (name : names "name" = true)
    (type : names "type" = true) (guestValue : names "param_arg" = true)
    (isPointer : names "is_pointer" = false → p.isPointer = false)
    (isDoublePointer : names "is_double_pointer" = false → p.isDoublePointer = false)
    (hostValue : names "name_in_function" = false → p.hostValue = "") :
    ofDraft (p.part names) = .ok p := by
  simp only [ofDraft, part, given_of_present, name, type, guestValue, getD_given isPointer,
    getD_given isDoublePointer, getD_given hostValue]
  rfl

theorem ofValue_object (h : v.IsObjectOf p.members) : ofValue v = .ok p := by
  obtain ⟨members, rfl, parts, lacks⟩ := h
  simp only [Param.members, List.forall_mem_cons, imp_false, not_not] at lacks
  obtain ⟨name, type, isPointer, isDoublePointer, guestValue, hostValue, _⟩ := lacks
  refine (readRecord_parts p.fills parts "struct VkParam" ofDraft).trans ?_
  apply ofDraft_part
  · simpa using name
  · simpa using type
  · simpa using guestValue
  · simpa using isPointer
  · simpa using isDoublePointer
  · simpa using hostValue

theorem normalize_of_isNormal (h : p.IsNormal) : p.normalize = p := by
  unfold normalize
  split
  · next missing =>
    exact congrArg (fun value => { p with hostValue := value }) ((h missing).trans missing.symm)
  · rfl

theorem ofValue_written (normal : p.IsNormal) (h : p.Writes v) :
    ∃ q, ofValue v = .ok q ∧ q.normalize = p := by
  rcases h with stated | ⟨own, unstated⟩
  · exact ⟨p, ofValue_object stated, normalize_of_isNormal normal⟩
  · refine ⟨_, ofValue_object unstated, ?_⟩
    rw [normalize, if_pos rfl]
    exact congrArg (fun value => { p with hostValue := value }) own.symm

theorem Writes.isPlain (h : p.Writes v) : v.IsPlain := by
  have plain (q : Param) : ∀ m ∈ q.members, ∀ w, m.Allows w → w.IsPlain := by
    simp only [members, List.forall_mem_cons, forall_eq]
    exact ⟨.string _, .string _, .bool _, .bool _, .string _, .string _, by simp⟩
  rcases h with stated | ⟨_, unstated⟩
  · exact stated.isPlain (plain p)
  · exact unstated.isPlain (plain _)

end Param

namespace Signature

variable {f : Signature} {v : Value}

def part (f : Signature) (names : String → Bool) : SignatureDraft :=
  { name := given names "name" f.name
    returnType := given names "return_type" f.returnType
    status := given names "status" f.status }

theorem read_returnType (result : f.returnType ≠ some "void") (h : f.WritesReturnType v) :
    ∃ x, readNullable readString v = .ok x ∧ nonVoid x = f.returnType := by
  unfold WritesReturnType at h
  split at h
  · next type known =>
    have stated : type ≠ "void" := fun same => result (by rw [known, same])
    exact ⟨some type, by rw [h]; rfl, by simp [known, nonVoid, stated]⟩
  · next unknown =>
    rw [unknown]
    rcases h with rfl | rfl
    · exact ⟨none, rfl, rfl⟩
    · exact ⟨some "void", rfl, by decide⟩

theorem read_status (h : f.WritesStatus v) :
    readNullable CallStatus.ofValue v = .ok f.status := by
  unfold WritesStatus at h
  split at h
  · next status known =>
    rw [h, known]
    exact Reading.map_eq_ok.2 ⟨status, status.ofValue_keyword, rfl⟩
  · next unknown =>
    rw [h, unknown]
    rfl

theorem fills (result : f.returnType ≠ some "void") : Fills fields f.members f.part where
  congr same := by
    simp only [members, List.forall_mem_cons] at same
    simp only [part, given, same]
  reads := by
    refine .cons ⟨rfl, ?_⟩ (.cons ⟨rfl, ?_⟩ (.cons ⟨rfl, ?_⟩ .nil))
    · refine fillsIn_fixed rfl (fun _ => isSome_given) fun names => ?_
      simp only [part, given, String.reduceBEq, Bool.or_false, Bool.or_true, if_true]
    · refine fillsIn_ofReader rfl (fun _ => isSome_given) fun v written => ?_
      obtain ⟨x, read, same⟩ := read_returnType result written
      refine ⟨x, read, fun names => ?_⟩
      simp only [part, given, same, String.reduceBEq, Bool.or_false, Bool.or_true, if_true]
    · refine fillsIn_ofReader rfl (fun _ => isSome_given) fun v written => ?_
      refine ⟨f.status, read_status written, fun names => ?_⟩
      simp only [part, given, String.reduceBEq, Bool.or_false, Bool.or_true, if_true]

theorem ofDraft_part {names : String → Bool} (name : names "name" = true)
    (returnType : names "return_type" = false → f.returnType = none)
    (status : names "status" = false → f.status = none) : ofDraft (f.part names) = .ok f := by
  simp only [ofDraft, part, given_of_present, name, getD_given returnType, getD_given status]
  rfl

theorem isScalar_of_allowed {m : Member} (listed : m ∈ f.members) (allowed : m.Allows v) :
    v.IsScalar := by
  simp only [members, List.mem_cons, List.not_mem_nil, or_false] at listed
  rcases listed with rfl | rfl | rfl
  · rw [allowed]
    exact .text _
  · dsimp only [WritesReturnType] at allowed
    split at allowed
    · rw [allowed]
      exact .text _
    · rcases allowed with rfl | rfl
      · exact .null
      · exact .text _
  · dsimp only [WritesStatus] at allowed
    split at allowed <;> rw [allowed]
    · exact .text _
    · exact .null

theorem name_ne_params {m : Member} (listed : m ∈ f.members) : m.name ≠ "params" := by
  simp only [members, List.mem_cons, List.not_mem_nil, or_false] at listed
  rcases listed with rfl | rfl | rfl <;> simp

theorem ofMembers_written (result : f.returnType ≠ some "void") {members : List (String × Value)}
    (parts : Value.HasParts f.members members)
    (lacks : ∀ m ∈ f.members, m.name ∉ members.map (·.1) → m.MayLack) :
    ofMembers (Value.named members) = .ok f := by
  simp only [Signature.members, List.forall_mem_cons, imp_false, not_not] at lacks
  obtain ⟨name, returnType, status, _⟩ := lacks
  have read := readMembers_parts (fills result) parts (fun _ => false) (by simp)
  have start : f.part (fun _ => false) = {} := rfl
  simp only [start, Bool.false_or] at read
  rw [ofMembers, read]
  apply ofDraft_part
  · simpa using name
  · simpa using returnType
  · simpa using status

end Signature

namespace HostFunction

variable {f : HostFunction} {v : Value}

theorem isReadable_of_isScalar (h : v.IsScalar) : v.isReadable nestingRoom = true := by
  cases h with
  | null | bool => rw [Value.isReadable]
  | text s => rw [Value.text, Value.isReadable, Option.isSome_some]

theorem splitMembers_scalars {members : List (String × Value)}
    (scalars : ∀ x ∈ members, x.1 ≠ "params" ∧ x.2.IsScalar)
    {rest others : List (Option String × Value)} {start params : Option (List Param)}
    (split : splitMembers rest start = .ok (params, others)) :
    splitMembers (Value.named members ++ rest) start =
      .ok (params, Value.named members ++ others) := by
  induction members with
  | nil => exact split
  | cons x members ih =>
    obtain ⟨⟨named, scalar⟩, later⟩ := List.forall_mem_cons.1 scalars
    rw [Value.named_cons, List.cons_append, splitMembers, if_neg named,
      if_pos (isReadable_of_isScalar scalar), ih later]
    rfl

theorem splitMembers_params {before after : List (String × Value)} {ps : List Param}
    (scalars : ∀ x ∈ before ++ after, x.1 ≠ "params" ∧ x.2.IsScalar)
    (read : readList Param.ofValue v = .ok ps) :
    splitMembers (Value.named (before ++ ("params", v) :: after)) none =
      .ok (some ps, Value.named (before ++ after)) := by
  have nothing : splitMembers [] (some ps) = .ok (some ps, []) := rfl
  have tail := splitMembers_scalars
    (fun x member => scalars x (List.mem_append_right before member)) nothing
  rw [List.append_nil] at tail
  rw [Value.named_append, Value.named_append, Value.named_cons]
  apply splitMembers_scalars fun x member => scalars x (List.mem_append_left after member)
  rw [splitMembers, if_pos rfl, if_neg (by simp), read]
  exact tail

theorem scalars_of_hasParts {others : List (String × Value)}
    (parts : Value.HasParts f.toSignature.members others) (apart : "params" ∉ others.map (·.1)) :
    ∀ x ∈ others, x.1 ≠ "params" ∧ x.2.IsScalar := by
  have scalar : ∀ x ∈ others, x.2.IsScalar :=
    parts.all (fun _ listed _ => Signature.isScalar_of_allowed listed) fun _ => id
  intro x member
  exact ⟨fun same => apart (same ▸ List.mem_map_of_mem member), scalar x member⟩

/-- What is left of an object when its member for parameters is set apart. -/
theorem hasParts_signature {members others : List (String × Value)}
    (parts : Value.HasParts f.members members) (sub : others.Sublist members)
    (apart : "params" ∉ others.map (·.1)) : Value.HasParts f.toSignature.members others := by
  refine parts.restrict sub (fun m listed => List.mem_cons_of_mem _ listed) ?_
  intro x member m listed same
  rcases List.mem_cons.1 listed with rfl | known
  · have present : x.1 ∈ others.map (·.1) := List.mem_map_of_mem member
    rw [← same] at present
    exact absurd present apart
  · exact known

theorem splitMembers_written (normal : f.IsNormal) {members : List (String × Value)}
    (parts : Value.HasParts f.members members)
    (lacks : ∀ m ∈ f.members, m.name ∉ members.map (·.1) → m.MayLack) :
    ∃ params others, splitMembers (Value.named members) none =
        .ok (params, Value.named others) ∧
      (params.getD []).map Param.normalize = f.params ∧
      Value.HasParts f.toSignature.members others ∧
      ∀ m ∈ f.toSignature.members, m.name ∉ others.map (·.1) → m.MayLack := by
  obtain ⟨without, lacking⟩ := List.forall_mem_cons.1 lacks
  by_cases there : "params" ∈ members.map (·.1)
  · obtain ⟨before, v, after, rfl, ⟨items, rfl, written⟩, apart⟩ :=
      parts.split (m := f.paramsMember) (List.mem_cons_self ..) there
    have left := hasParts_signature parts
      ((List.Sublist.refl before).append (List.sublist_cons_self _ after)) apart
    obtain ⟨ps, read, same⟩ := exists_readList written fun p listed v =>
      Param.ofValue_written (normal.2 p listed)
    have split := splitMembers_params (scalars_of_hasParts left apart) read
    refine ⟨some ps, before ++ after, split, same, left, fun m listed absent => ?_⟩
    refine lacking m listed fun present => absent ?_
    rw [List.map_append, List.map_cons, List.mem_append, List.mem_cons] at present
    rw [List.map_append, List.mem_append]
    exact present.imp id fun later => later.resolve_left (Signature.name_ne_params listed)
  · have left := hasParts_signature parts (List.Sublist.refl members) there
    have nothing : splitMembers [] none = .ok (none, []) := rfl
    have split := splitMembers_scalars (scalars_of_hasParts left there) nothing
    rw [List.append_nil] at split
    have empty : f.params = [] := without there
    exact ⟨none, members, split, empty.symm, left, lacking⟩

theorem ofValue_written (normal : f.IsNormal) (h : f.Writes v) :
    ∃ g, ofValue v = .ok g ∧ g.normalize = f := by
  obtain ⟨members, rfl, parts, lacks⟩ := h
  obtain ⟨params, others, split, same, left, lacking⟩ := splitMembers_written normal parts lacks
  refine ⟨{ toSignature := f.toSignature, params := params.getD [] }, ?_, ?_⟩
  · rw [Value.ofMembers, ofValue, split]
    simp only [bind, Except.bind, if_true, Signature.ofMembers_written normal.1 left lacking]
    rfl
  · rw [normalize, same]

theorem Writes.isPlain (h : f.Writes v) : v.IsPlain := by
  apply Value.IsObjectOf.isPlain h
  refine List.forall_mem_cons.2 ⟨?_, fun m listed w allowed => ?_⟩
  · rintro w ⟨items, rfl, written⟩
    exact isPlain_array written fun p w => Param.Writes.isPlain
  · exact (Signature.isScalar_of_allowed listed allowed).isPlain

end HostFunction

namespace TypeEntry

theorem Writes.isPlain {t : TypeEntry} {v : Value} (h : t.Writes v) : v.IsPlain := by
  apply Value.IsObjectOf.isPlain h
  simp only [members, List.forall_mem_cons, forall_eq]
  exact ⟨.string _, .string _, by simp⟩

end TypeEntry

namespace Descriptors

variable {d : Descriptors} {v : Value}

/-- The members of an object from which these descriptors are read as they are. -/
def readMembers (d : Descriptors) : List Member := [
  { name := "types", Allows := fun v => readList TypeEntry.ofValue v = .ok d.types
    MayLack := d.types = [] },
  { name := "functions", Allows := fun v => readList HostFunction.ofValue v = .ok d.functions
    MayLack := d.functions = [] }]

def part (d : Descriptors) (names : String → Bool) : DescriptorsDraft :=
  { types := given names "types" d.types, functions := given names "functions" d.functions }

theorem fills (d : Descriptors) : Fills fields d.readMembers d.part where
  congr same := by
    simp only [readMembers, List.forall_mem_cons] at same
    simp only [part, given, same]
  reads := by
    refine .cons ⟨rfl, ?_⟩ (.cons ⟨rfl, ?_⟩ .nil)
    · refine fillsIn_ofReader rfl (fun _ => isSome_given) fun v read => ⟨_, read, fun names => ?_⟩
      simp only [part, given, String.reduceBEq, Bool.or_false, Bool.or_true, if_true]
    · refine fillsIn_ofReader rfl (fun _ => isSome_given) fun v read => ⟨_, read, fun names => ?_⟩
      simp only [part, given, String.reduceBEq, Bool.or_false, Bool.or_true, if_true]

theorem ofDraft_part {names : String → Bool} (types : names "types" = false → d.types = [])
    (functions : names "functions" = false → d.functions = []) :
    ofDraft (d.part names) = .ok d := by
  simp only [ofDraft, part, getD_given types, getD_given functions]

theorem ofValue_object (h : v.IsObjectOf d.readMembers) : ofValue v = .ok d := by
  obtain ⟨members, rfl, parts, lacks⟩ := h
  simp only [readMembers, List.forall_mem_cons] at lacks
  obtain ⟨types, functions, _⟩ := lacks
  refine (readRecord_parts d.fills parts "struct DescriptorFile" ofDraft).trans ?_
  apply ofDraft_part
  · simpa using types
  · simpa using functions

/-- The functions as they are read, whatever of their parameters was left out. -/
theorem exists_functions (normal : d.IsNormal) {members : List (String × Value)}
    (parts : Value.HasParts d.members members)
    (lacks : "functions" ∉ members.map (·.1) → d.functions = []) :
    ∃ fs, fs.map HostFunction.normalize = d.functions ∧
      (∀ x ∈ members, x.1 = "functions" → readList HostFunction.ofValue x.2 = .ok fs) ∧
      ("functions" ∉ members.map (·.1) → fs = []) := by
  by_cases there : "functions" ∈ members.map (·.1)
  · obtain ⟨before, v, after, rfl, ⟨items, rfl, written⟩, apart⟩ :=
      parts.split (m := d.functionsMember)
        (List.mem_cons_of_mem _ (List.mem_singleton_self _)) there
    obtain ⟨fs, read, same⟩ := exists_readList written fun f listed v =>
      HostFunction.ofValue_written (normal f listed)
    refine ⟨fs, same, fun x member named => ?_, fun absent => absurd there absent⟩
    rw [Value.value_of_apart apart member named, read]
  · refine ⟨[], (lacks there).symm, fun x member named => ?_, fun _ => rfl⟩
    exact absurd (named ▸ List.mem_map_of_mem member) there

theorem ofValue_written (normal : d.IsNormal) (h : d.Writes v) :
    ∃ e, ofValue v = .ok e ∧ e.normalize = d := by
  obtain ⟨members, rfl, parts, lacks⟩ := h
  simp only [Descriptors.members, List.forall_mem_cons] at lacks
  obtain ⟨noTypes, noFunctions, _⟩ := lacks
  obtain ⟨fs, same, read, without⟩ := exists_functions normal parts noFunctions
  have inside : Value.HasParts { d with functions := fs }.readMembers members := by
    refine parts.reinterpret rfl fun x member m listed named => ?_
    simp only [readMembers, List.mem_cons, List.not_mem_nil, or_false] at listed
    rcases listed with rfl | rfl
    · obtain ⟨items, array, written⟩ :=
        parts.allowed x member d.typesMember (List.mem_cons_self ..) named
      exact readList_eq_ok_iff.2 ⟨items, array, written.imp fun t v => TypeEntry.ofValue_written⟩
    · exact read x member named.symm
  refine ⟨{ d with functions := fs }, ofValue_object ⟨members, rfl, inside, ?_⟩, ?_⟩
  · simp only [readMembers, List.forall_mem_cons]
    exact ⟨noTypes, without, by simp⟩
  · rw [normalize, same]

theorem Writes.isPlain (h : d.Writes v) : v.IsPlain := by
  apply Value.IsObjectOf.isPlain h
  simp only [members, List.forall_mem_cons]
  refine ⟨?_, ?_, by simp⟩
  · rintro w ⟨items, rfl, written⟩
    exact isPlain_array written fun t w => TypeEntry.Writes.isPlain
  · rintro w ⟨items, rfl, written⟩
    exact isPlain_array written fun f w => HostFunction.Writes.isPlain

/-- From any text that writes normal descriptors these descriptors are read. -/
theorem ofJson_written (normal : d.IsNormal) {text : String} (h : d.IsWritten text) :
    ofJson text = .ok d := by
  obtain ⟨v, written, spelled⟩ := h
  obtain ⟨e, read, same⟩ := ofValue_written normal written
  rw [ofJson, Value.ofText_spelled written.isPlain spelled]
  simp only [bind, Except.bind, read, if_true, same]
  rfl

end Descriptors

end HostCall
