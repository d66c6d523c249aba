import HostCall.DescriptorFile
import HostCall.Proofs.Reports

/-!
Descriptor files in which members are missing. What is there is of the right kind, and nothing that
is needed need be there. The records of such a file are told by their places, and come in the order
of their closing brackets.
-/
namespace HostCall

open Json

namespace Json

def Member.spare (name : String) (Allows : Value → Prop) : Member :=
  { name, Allows, MayLack := True }

namespace Value

def IsText (v : Value) : Prop := ∃ s, v = .text s

def IsFlag (v : Value) : Prop := ∃ b, v = .bool b

/-- A word, alone or as the only name in an object with null as the value. -/
def SaysWord (word : String) (v : Value) : Prop := v = .text word ∨ v = .ofMembers [(word, .null)]

def IsArrayOf (P : Value → Prop) (v : Value) : Prop :=
  ∃ items, v = .array items true ∧ ∀ item ∈ items, P item

theorem IsText.isPlain {v : Value} (h : v.IsText) : v.IsPlain := by
  obtain ⟨s, rfl⟩ := h
  exact .string s

theorem IsFlag.isPlain {v : Value} (h : v.IsFlag) : v.IsPlain := by
  obtain ⟨b, rfl⟩ := h
  exact .bool b

theorem SaysWord.isPlain {word : String} {v : Value} (h : v.SaysWord word) : v.IsPlain := by
  rcases h with rfl | rfl
  · exact .string word
  · exact .object (by simp [IsPlain.null])

theorem IsArrayOf.isPlain {P : Value → Prop} {v : Value} (h : v.IsArrayOf P)
    (each : ∀ item, P item → item.IsPlain) : v.IsPlain := by
  obtain ⟨items, rfl, all⟩ := h
  exact .array fun item member => each item (all item member)

theorem mem_membersAfter {before : List Token} {members : List (Option String × Value)} :
    ∀ x ∈ Place.membersAfter before members, (x.1, x.2.value) ∈ members := by
  induction members generalizing before with
  | nil => simp [Place.membersAfter]
  | cons member rest ih =>
    obtain ⟨name, value⟩ := member
    rw [Place.membersAfter, List.forall_mem_cons]
    exact ⟨List.mem_cons_self .., fun x listed => List.mem_cons_of_mem _ (ih x listed)⟩

theorem IsObjectOf.allows {ms : List Member} {p : Place} (h : p.value.IsObjectOf ms) {m : Member}
    (known : m ∈ ms) : ∀ x ∈ p.members, x.1 = some m.name → m.Allows x.2.value := by
  obtain ⟨before, value⟩ := p
  obtain ⟨members, same, parts, _⟩ := h
  dsimp only at same
  subst same
  intro x listed named
  obtain ⟨y, member, same⟩ := List.mem_map.1 (mem_membersAfter x listed)
  obtain ⟨name, value⟩ := Prod.mk.inj same
  rw [← value]
  exact parts.allowed y member m known (Option.some.inj (name.trans named)).symm

theorem IsArrayOf.each {P : Value → Prop} {p : Place} (h : p.value.IsArrayOf P) :
    ∀ q ∈ p.items, P q.value := by
  obtain ⟨before, value⟩ := p
  obtain ⟨items, same, all⟩ := h
  dsimp only at same
  subst same
  exact fun q member => all q.value (Place.value_mem_itemsAfter q member)

end Value

end Json

def TypeEntry.sketch : List Member := [
  .spare "name" Value.IsText,
  .spare "category" fun v => ∃ c : Category, v.SaysWord c.keyword]

def Param.sketch : List Member := [
  .spare "name" Value.IsText,
  .spare "type" Value.IsText,
  .spare "is_pointer" Value.IsFlag,
  .spare "is_double_pointer" Value.IsFlag,
  .spare "param_arg" Value.IsText,
  .spare "name_in_function" Value.IsText]

def Signature.sketch : List Member := [
  .spare "name" Value.IsText,
  .spare "return_type" fun v => v = .null ∨ v.IsText,
  .spare "status" fun v => v = .null ∨ ∃ s : CallStatus, v.SaysWord s.keyword]

def HostFunction.sketch : List Member :=
  .spare "params" (Value.IsArrayOf (Value.IsObjectOf Param.sketch)) :: Signature.sketch

def Descriptors.sketch : List Member := [
  .spare "types" (Value.IsArrayOf (Value.IsObjectOf TypeEntry.sketch)),
  .spare "functions" (Value.IsArrayOf (Value.IsObjectOf HostFunction.sketch))]

/-- A descriptor file but for members that are missing from it or from its records. -/
def Descriptors.IsSketch (file : Value) : Prop := file.IsObjectOf sketch

theorem TypeEntry.sketch_isPlain : ∀ m ∈ sketch, ∀ v, m.Allows v → v.IsPlain := by
  simp only [sketch, Member.spare, List.forall_mem_cons]
  refine ⟨fun v => Value.IsText.isPlain, ?_, by simp⟩
  rintro v ⟨c, word⟩
  exact word.isPlain

theorem Param.sketch_isPlain : ∀ m ∈ sketch, ∀ v, m.Allows v → v.IsPlain := by
  simp only [sketch, Member.spare, List.forall_mem_cons]
  exact ⟨fun v => Value.IsText.isPlain, fun v => Value.IsText.isPlain, fun v => Value.IsFlag.isPlain,
    fun v => Value.IsFlag.isPlain, fun v => Value.IsText.isPlain, fun v => Value.IsText.isPlain,
    by simp⟩

theorem Signature.sketch_isPlain : ∀ m ∈ sketch, ∀ v, m.Allows v → v.IsPlain := by
  simp only [sketch, Member.spare, List.forall_mem_cons]
  refine ⟨fun v => Value.IsText.isPlain, ?_, ?_, by simp⟩
  · rintro v (rfl | type)
    · exact .null
    · exact type.isPlain
  · rintro v (rfl | ⟨s, word⟩)
    · exact .null
    · exact word.isPlain

theorem HostFunction.sketch_isPlain : ∀ m ∈ sketch, ∀ v, m.Allows v → v.IsPlain := by
  refine List.forall_mem_cons.2 ⟨fun v params => ?_, Signature.sketch_isPlain⟩
  exact params.isPlain fun item param => param.isPlain Param.sketch_isPlain

theorem Descriptors.IsSketch.isPlain {file : Value} (h : IsSketch file) : file.IsPlain := by
  apply Value.IsObjectOf.isPlain h
  simp only [sketch, Member.spare, List.forall_mem_cons]
  refine ⟨fun v types => ?_, fun v functions => ?_, by simp⟩
  · exact types.isPlain fun item type => type.isPlain TypeEntry.sketch_isPlain
  · exact functions.isPlain fun item function => function.isPlain HostFunction.sketch_isPlain

inductive RecordKind where
  | type
  | function
  | param
  deriving DecidableEq, Repr

namespace RecordKind

/-- The members that a record must have, in the order in which it declares them. -/
def required : RecordKind → List String
  | type => ["name", "category"]
  | function => ["name"]
  | param => ["name", "type", "param_arg"]

def sketch : RecordKind → List Member
  | type => TypeEntry.sketch
  | function => HostFunction.sketch
  | param => Param.sketch

end RecordKind

/-- A record at its place in a descriptor file. -/
structure Record extends Place where
  kind : RecordKind

namespace Record

def IsComplete (r : Record) : Prop := ∀ name ∈ r.kind.required, r.value.has name = true

/-- The first of the members a record must have that it does not have. -/
def missing? (r : Record) : Option String := r.kind.required.find? fun name => !r.value.has name

def ofParams (x : Option String × Place) : List Record :=
  if x.1 = some "params" then x.2.items.map (⟨·, .param⟩) else []

/-- A function with its parameters, which stand inside it and so are closed before it. -/
def ofFunction (f : Place) : List Record := f.members.flatMap ofParams ++ [⟨f, .function⟩]

def ofSection (x : Option String × Place) : List Record :=
  if x.1 = some "types" then x.2.items.map (⟨·, .type⟩)
  else if x.1 = some "functions" then x.2.items.flatMap ofFunction
  else []

def all (file : Value) : List Record := (Place.members ⟨[], file⟩).flatMap ofSection

theorem ofParams_params (p : Place) :
    ofParams (some "params", p) = p.items.map (⟨·, .param⟩) := if_pos rfl

theorem ofParams_other {x : Option String × Place} (other : x.1 ≠ some "params") :
    ofParams x = [] := if_neg other

theorem ofSection_types (p : Place) : ofSection (some "types", p) = p.items.map (⟨·, .type⟩) :=
  if_pos rfl

theorem ofSection_functions (p : Place) :
    ofSection (some "functions", p) = p.items.flatMap ofFunction :=
  (if_neg (by simp)).trans (if_pos rfl)

theorem ofSection_other {x : Option String × Place} (types : x.1 ≠ some "types")
    (functions : x.1 ≠ some "functions") : ofSection x = [] :=
  (if_neg types).trans (if_neg functions)

theorem missing?_eq_none_iff {r : Record} : r.missing? = none ↔ r.IsComplete := by
  simp [missing?, IsComplete]

/-- Records inside a place, in the order of their ends. -/
structure StandIn (p : Place) (rs : List Record) : Prop where
  within : ∀ r ∈ rs, r.toPlace.Within p
  ordered : rs.Pairwise fun r s => r.size < s.size
  shaped : ∀ r ∈ rs, r.value.IsObjectOf r.kind.sketch

theorem StandIn.nil (p : Place) : StandIn p [] := ⟨by simp, .nil, by simp⟩

theorem StandIn.single {p : Place} {kind : RecordKind} (shape : p.value.IsObjectOf kind.sketch) :
    StandIn p [⟨p, kind⟩] where
  within := List.forall_mem_singleton.2 (.refl p)
  ordered := List.pairwise_singleton ..
  shaped := List.forall_mem_singleton.2 shape

theorem StandIn.flatMap {ι : Type} {xs : List ι} {place : ι → Place} {g : ι → List Record}
    {p : Place} (inside : ∀ x ∈ xs, (place x).Within p)
    (ordered : xs.Pairwise fun x y => (place x).Precedes (place y))
    (each : ∀ x ∈ xs, StandIn (place x) (g x)) : StandIn p (xs.flatMap g) where
  within r listed := by
    obtain ⟨x, member, here⟩ := List.mem_flatMap.1 listed
    exact ((each x member).within r here).trans (inside x member)
  ordered := by
    refine List.pairwise_flatMap.2 ⟨fun x member => (each x member).ordered, ?_⟩
    refine ordered.imp_of_mem fun first second precedes r here s there => ?_
    exact Place.size_lt_of_precedes precedes ((each _ first).within r here)
      ((each _ second).within s there)
  shaped r listed := by
    obtain ⟨x, member, here⟩ := List.mem_flatMap.1 listed
    exact (each x member).shaped r here

theorem standIn_items {kind : RecordKind} {p : Place}
    (array : p.value.IsArrayOf (Value.IsObjectOf kind.sketch)) :
    StandIn p (p.items.map (⟨·, kind⟩)) := by
  rw [List.map_eq_flatMap]
  exact .flatMap Place.items_within p.items_ordered fun q member => .single (array.each q member)

theorem standIn_function {f : Place} (sketch : f.value.IsObjectOf HostFunction.sketch) :
    StandIn f (ofFunction f) := by
  have params : ∀ x ∈ f.members, StandIn x.2 (ofParams x) := by
    intro x member
    unfold ofParams
    split
    · next named => exact standIn_items (sketch.allows (List.mem_cons_self ..) x member named)
    · exact .nil x.2
  have inside : ∀ x ∈ f.members, x.2.Within f := fun x member => (Place.members_within x member).1
  have before := StandIn.flatMap inside f.members_ordered params
  have own : StandIn f [⟨f, .function⟩] := .single sketch
  -- a parameter ends before the bracket that closes the function, so the function comes last
  refine ⟨?_, List.pairwise_append.2 ⟨before.ordered, own.ordered, ?_⟩, ?_⟩
  · exact List.forall_mem_append.2 ⟨before.within, own.within⟩
  · intro r listed s here
    obtain ⟨x, member, there⟩ := List.mem_flatMap.1 listed
    rw [List.mem_singleton.1 here]
    calc r.size ≤ x.2.size := ((params x member).within r there).size_le
      _ < f.size := (Place.members_within x member).2
  · exact List.forall_mem_append.2 ⟨before.shaped, own.shaped⟩

theorem standIn_all {file : Value} (sketch : Descriptors.IsSketch file) :
    StandIn ⟨[], file⟩ (all file) := by
  refine .flatMap (fun x member => (Place.members_within x member).1) (Place.members_ordered _) ?_
  intro x member
  have allows {m : Member} (known : m ∈ Descriptors.sketch) :=
    Value.IsObjectOf.allows (p := ⟨[], file⟩) sketch known x member
  unfold ofSection
  split
  · next named => exact standIn_items (allows (List.mem_cons_self ..) named)
  split
  · next named =>
    have functions := allows (List.mem_cons_of_mem _ (List.mem_singleton_self _)) named
    exact .flatMap Place.items_within x.2.items_ordered fun q inside =>
      standIn_function (functions.each q inside)
  · exact .nil x.2

/-- The text of a record ends in the bracket that closes it. -/
theorem getLast?_upTo {r : Record} {ms : List Member} (shape : r.value.IsObjectOf ms) :
    r.upTo.getLast? = some .closeObject := by
  obtain ⟨members, same, _⟩ := shape
  rw [Place.upTo, same, Value.ofMembers, Value.tokens, ← List.cons_append, ← List.append_assoc,
    List.getLast?_concat]

end Record

end HostCall
