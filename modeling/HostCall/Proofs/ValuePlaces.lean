import HostCall.Proofs.ValueText

/-!
Where the parts of a JSON value stand in its text. A part is placed by the tokens before it; the
items of an array and the members of an object stand inside it, one behind the other.
-/
namespace HostCall.Json

/-- A value in a text, after these of the text's tokens. -/
structure Place where
  before : List Token
  value : Value

namespace Place

/-- The tokens up to the end of the value. -/
def upTo (p : Place) : List Token := p.before ++ p.value.tokens

def size (p : Place) : Nat := p.upTo.length

def itemsAfter (before : List Token) : List Value → List Place
  | [] => []
  | item :: rest => ⟨before, item⟩ :: itemsAfter (before ++ item.tokens ++ [.comma]) rest

def items : Place → List Place
  | ⟨before, .array items _⟩ => itemsAfter (before ++ [.openArray]) items
  | _ => []

def membersAfter (before : List Token) :
    List (Option String × Value) → List (Option String × Place)
  | [] => []
  | (name, value) :: rest =>
    let start := before ++ [.string name, .colon]
    (name, ⟨start, value⟩) :: membersAfter (start ++ value.tokens ++ [.comma]) rest

def members : Place → List (Option String × Place)
  | ⟨before, .object members _⟩ => membersAfter (before ++ [.openObject]) members
  | _ => []

structure Within (q p : Place) : Prop where
  start : p.before.length ≤ q.before.length
  text : q.upTo <+: p.upTo

def Precedes (p q : Place) : Prop := p.size ≤ q.before.length

theorem tokens_ne_nil (v : Value) : v.tokens ≠ [] := by
  cases v <;> simp [Value.tokens]

theorem before_lt_size (p : Place) : p.before.length < p.size := by
  have filled := List.length_pos_iff.2 (tokens_ne_nil p.value)
  rw [size, upTo, List.length_append]
  omega

theorem Within.refl (p : Place) : p.Within p := ⟨Nat.le_refl _, List.prefix_refl _⟩

theorem Within.trans {p q r : Place} (first : r.Within q) (second : q.Within p) : r.Within p :=
  ⟨second.start.trans first.start, first.text.trans second.text⟩

theorem Within.size_le {p q : Place} (h : q.Within p) : q.size ≤ p.size := h.text.length_le

theorem size_lt_of_precedes {p q r s : Place} (precedes : p.Precedes q) (first : r.Within p)
    (second : s.Within q) : r.size < s.size :=
  calc r.size ≤ p.size := first.size_le
    _ ≤ q.before.length := precedes
    _ ≤ s.before.length := second.start
    _ < s.size := s.before_lt_size

theorem itemsAfter_start {before : List Token} {items : List Value} :
    ∀ q ∈ itemsAfter before items, before.length ≤ q.before.length := by
  induction items generalizing before with
  | nil => simp [itemsAfter]
  | cons item rest ih =>
    rw [itemsAfter, List.forall_mem_cons]
    refine ⟨Nat.le_refl _, fun q member => ?_⟩
    have later := ih q member
    simp only [List.length_append] at later
    omega

theorem itemsAfter_upTo {before : List Token} {items : List Value} :
    ∀ q ∈ itemsAfter before items,
      q.upTo <+: before ++ [.comma].intercalate (items.map Value.tokens) := by
  induction items generalizing before with
  | nil => simp [itemsAfter]
  | cons item rest ih =>
    rw [itemsAfter, List.forall_mem_cons]
    cases rest with
    | nil => simp [itemsAfter, upTo]
    | cons second rest =>
      simp only [List.map_cons, List.intercalate_cons_cons] at ih ⊢
      refine ⟨?_, fun q member => ?_⟩
      · rw [upTo, List.append_assoc, ← List.append_assoc before]
        exact List.prefix_append ..
      · have later := ih q member
        simpa only [List.append_assoc] using later

theorem value_mem_itemsAfter {before : List Token} {items : List Value} :
    ∀ q ∈ itemsAfter before items, q.value ∈ items := by
  induction items generalizing before with
  | nil => simp [itemsAfter]
  | cons item rest ih =>
    rw [itemsAfter, List.forall_mem_cons]
    exact ⟨List.mem_cons_self .., fun q member => List.mem_cons_of_mem item (ih q member)⟩

theorem itemsAfter_ordered {before : List Token} {items : List Value} :
    (itemsAfter before items).Pairwise Precedes := by
  induction items generalizing before with
  | nil => exact .nil
  | cons item rest ih =>
    refine List.pairwise_cons.2 ⟨fun q member => ?_, ih⟩
    have later := itemsAfter_start q member
    simp only [List.length_append] at later
    simp only [Precedes, size, upTo, List.length_append]
    omega

theorem membersAfter_start {before : List Token} {members : List (Option String × Value)} :
    ∀ x ∈ membersAfter before members, before.length ≤ x.2.before.length := by
  induction members generalizing before with
  | nil => simp [membersAfter]
  | cons member rest ih =>
    obtain ⟨name, value⟩ := member
    rw [membersAfter, List.forall_mem_cons]
    refine ⟨by simp, fun x listed => ?_⟩
    have later := ih x listed
    simp only [List.length_append] at later
    omega

theorem membersAfter_upTo {before : List Token} {members : List (Option String × Value)} :
    ∀ x ∈ membersAfter before members,
      x.2.upTo <+: before ++ [.comma].intercalate (Value.memberTokens members) := by
  induction members generalizing before with
  | nil => simp [membersAfter]
  | cons member rest ih =>
    obtain ⟨name, value⟩ := member
    rw [membersAfter, List.forall_mem_cons]
    cases rest with
    | nil => simp [membersAfter, upTo, Value.memberTokens]
    | cons second rest =>
      obtain ⟨other, next⟩ := second
      simp only [Value.memberTokens, List.intercalate_cons_cons] at ih ⊢
      refine ⟨?_, fun x listed => ?_⟩
      · simp [upTo, List.prefix_append_right_inj]
      · have later := ih x listed
        simpa only [List.append_assoc, List.cons_append, List.nil_append] using later

theorem membersAfter_ordered {before : List Token} {members : List (Option String × Value)} :
    (membersAfter before members).Pairwise fun x y => x.2.Precedes y.2 := by
  induction members generalizing before with
  | nil => exact .nil
  | cons member rest ih =>
    obtain ⟨name, value⟩ := member
    refine List.pairwise_cons.2 ⟨fun x listed => ?_, ih⟩
    have later := membersAfter_start x listed
    simp only [List.length_append] at later
    simp only [Precedes, size, upTo, List.length_append]
    omega

theorem items_within {p : Place} : ∀ q ∈ p.items, q.Within p := by
  intro q member
  unfold items at member
  split at member
  · next before values closed =>
    have start := itemsAfter_start q member
    have text := itemsAfter_upTo q member
    refine ⟨?_, text.trans ?_⟩
    · rw [List.length_append] at start
      exact Nat.le_of_add_right_le start
    · simp only [upTo, Value.tokens, Value.itemTokens_eq, List.append_assoc, List.cons_append]
      exact ⟨[.closeArray], by simp⟩
  · exact absurd member List.not_mem_nil

theorem items_ordered (p : Place) : p.items.Pairwise Precedes := by
  unfold items
  split
  · exact itemsAfter_ordered
  · exact .nil

/-- A member ends before the bracket that closes its object. -/
theorem members_within {p : Place} : ∀ x ∈ p.members, x.2.Within p ∧ x.2.size < p.size := by
  intro x listed
  unfold members at listed
  split at listed
  · next before values ending =>
    have start := membersAfter_start x listed
    have text := membersAfter_upTo x listed
    have whole : upTo ⟨before, .object values ending⟩ =
        before ++ [.openObject] ++ [.comma].intercalate (Value.memberTokens values) ++
          [.closeObject] := by
      simp [upTo, Value.tokens]
    refine ⟨⟨?_, text.trans ?_⟩, ?_⟩
    · rw [List.length_append] at start
      exact Nat.le_of_add_right_le start
    · rw [whole]
      exact List.prefix_append ..
    · have shorter := text.length_le
      rw [size, size, whole, List.length_append]
      exact Nat.lt_add_one_of_le shorter
  · exact absurd listed List.not_mem_nil

theorem members_ordered (p : Place) : p.members.Pairwise fun x y => x.2.Precedes y.2 := by
  unfold members
  split
  · exact membersAfter_ordered
  · exact .nil

end Place

end HostCall.Json
