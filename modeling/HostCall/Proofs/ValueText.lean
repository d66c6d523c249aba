import HostCall.Proofs.TokenText

/-!
The text of JSON values. A value is the sequence of its tokens, and any text that spells them reads
as the value and nothing else.
-/
namespace HostCall.Json

namespace Value

mutual

/-- The tokens of a value. -/
def tokens : Value → List Token
  | null => [.null]
  | bool value => [.bool value]
  | number n => [.number n]
  | string value => [.string value]
  | array items _ => .openArray :: ([.comma].intercalate (itemTokens items) ++ [.closeArray])
  | object members _ =>
    .openObject :: ([.comma].intercalate (memberTokens members) ++ [.closeObject])
  | broken => [.junk]

def itemTokens : List Value → List (List Token)
  | [] => []
  | item :: rest => tokens item :: itemTokens rest

def memberTokens : List (Option String × Value) → List (List Token)
  | [] => []
  | (key, value) :: rest => (.string key :: .colon :: tokens value) :: memberTokens rest

end

def named (members : List (String × Value)) : List (Option String × Value) :=
  members.map fun x => (some x.1, x.2)

/-- An object whose text has no defect. -/
def ofMembers (members : List (String × Value)) : Value := .object (named members) .closed

/-- Values whose text has no defect and no numbers. -/
inductive IsPlain : Value → Prop
  | null : IsPlain .null
  | bool (value : Bool) : IsPlain (.bool value)
  | string (s : String) : IsPlain (.string (some s))
  | array {items : List Value} (plain : ∀ item ∈ items, item.IsPlain) : IsPlain (.array items true)
  | object {members : List (String × Value)} (plain : ∀ x ∈ members, x.2.IsPlain) :
      IsPlain (ofMembers members)

theorem itemTokens_eq (items : List Value) : itemTokens items = items.map tokens := by
  induction items with
  | nil => rfl
  | cons item rest ih => rw [itemTokens, ih, List.map_cons]

/-- The tokens of a member and its name. -/
def memberOf (x : String × Value) : List Token := .string (some x.1) :: .colon :: x.2.tokens

theorem named_cons (x : String × Value) (members : List (String × Value)) :
    named (x :: members) = (some x.1, x.2) :: named members := rfl

theorem named_append (before after : List (String × Value)) :
    named (before ++ after) = named before ++ named after := List.map_append

theorem memberTokens_eq (members : List (String × Value)) :
    memberTokens (named members) = members.map memberOf := by
  induction members with
  | nil => rfl
  | cons x rest ih => rw [named_cons, memberTokens, ih, List.map_cons, memberOf]

theorem IsPlain.tokens_head {v : Value} (h : v.IsPlain) :
    ∃ t rest, v.tokens = t :: rest ∧ t ≠ .closeArray := by
  cases h <;> exact ⟨_, _, rfl, by simp⟩

/-- A value is read from its tokens, whatever follows them. -/
def IsReadBack (v : Value) : Prop :=
  ∀ fuel rest, v.tokens.length ≤ fuel → read fuel (v.tokens ++ rest) = (v, rest)

theorem readItems_tokens {item : Value} {items : List Value}
    (back : ∀ v ∈ item :: items, v.IsReadBack) (fuel : Nat) (rest : List Token)
    (enough : ([Token.comma].intercalate ((item :: items).map tokens)).length < fuel) :
    readItems fuel ([.comma].intercalate ((item :: items).map tokens) ++ .closeArray :: rest) =
      (item :: items, true, rest) := by
  -- every item costs a step besides those for its own tokens, and the comma after it pays for that
  induction items generalizing item fuel with
  | nil =>
    simp only [List.map_cons, List.map_nil, List.intercalate_singleton] at enough ⊢
    have first := back item (List.mem_cons_self ..)
    cases fuel with
    | zero => simp at enough
    | succ fuel => rw [readItems, first fuel _ (by omega)]
  | cons second items ih =>
    simp only [List.map_cons, List.intercalate_cons_cons, List.length_append, List.length_cons,
      List.length_nil] at enough ih ⊢
    obtain ⟨first, others⟩ := List.forall_mem_cons.1 back
    cases fuel with
    | zero => simp at enough
    | succ fuel =>
      have tail := ih others fuel (by omega)
      simp only [List.append_assoc, List.cons_append, List.nil_append]
      rw [readItems, first fuel _ (by omega)]
      simp only [tail]

theorem readMembers_tokens {x : String × Value} {members : List (String × Value)}
    (back : ∀ y ∈ x :: members, y.2.IsReadBack) (fuel : Nat) (rest : List Token)
    (enough : ([Token.comma].intercalate ((x :: members).map memberOf)).length ≤ fuel) :
    readMembers fuel
        ([.comma].intercalate ((x :: members).map memberOf) ++ .closeObject :: rest) =
      (named (x :: members), .closed, rest) := by
  induction members generalizing x fuel with
  | nil =>
    simp only [List.map_cons, List.map_nil, List.intercalate_singleton, memberOf, List.length_cons]
      at enough ⊢
    have first := back x (List.mem_cons_self ..)
    cases fuel with
    | zero => simp at enough
    | succ fuel =>
      simp only [List.cons_append]
      rw [readMembers, first fuel _ (by omega)]
      rfl
  | cons second members ih =>
    simp only [List.map_cons, List.intercalate_cons_cons, List.length_append, List.length_cons,
      List.length_nil, memberOf] at enough ih ⊢
    obtain ⟨first, others⟩ := List.forall_mem_cons.1 back
    cases fuel with
    | zero => simp at enough
    | succ fuel =>
      have tail := ih others fuel (by omega)
      simp only [List.append_assoc, List.cons_append, List.nil_append]
      rw [readMembers, first fuel _ (by omega)]
      simp only [tail]
      rfl

theorem intercalate_head (t : Token) (first : List Token) (others : List (List Token))
    (rest : List Token) :
    ∃ after, [Token.comma].intercalate ((t :: first) :: others) ++ rest = t :: after := by
  cases others with
  | nil => exact ⟨first ++ rest, by rw [List.intercalate_singleton, List.cons_append]⟩
  | cons second others => exact ⟨_, by rw [List.intercalate_cons_cons]; rfl⟩

theorem isReadBack_array {items : List Value} (back : ∀ item ∈ items, item.IsReadBack)
    (plain : ∀ item ∈ items, item.IsPlain) : (array items true).IsReadBack := by
  intro fuel rest enough
  rw [tokens, itemTokens_eq] at enough ⊢
  rw [List.length_cons, List.length_append, List.length_singleton] at enough
  obtain ⟨fuel, rfl⟩ : ∃ less, fuel = less + 1 := ⟨fuel - 1, by omega⟩
  rw [List.cons_append, List.append_assoc]
  cases items with
  | nil => rfl
  | cons item items =>
    -- the first token is no bracket that closes, so the array is not taken for an empty one
    have read_items := readItems_tokens back fuel rest (by omega)
    obtain ⟨t, others, first, opening⟩ := (plain item (List.mem_cons_self ..)).tokens_head
    obtain ⟨after, begins⟩ := intercalate_head t others (items.map tokens) (.closeArray :: rest)
    simp only [List.map_cons, first, List.singleton_append] at read_items ⊢
    rw [begins] at read_items ⊢
    rw [read]
    · rw [read_items]
    · intro later same
      cases same
      exact opening rfl

theorem isReadBack_object {members : List (String × Value)}
    (back : ∀ x ∈ members, x.2.IsReadBack) : (ofMembers members).IsReadBack := by
  intro fuel rest enough
  rw [ofMembers, tokens, memberTokens_eq] at enough ⊢
  rw [List.length_cons, List.length_append, List.length_singleton] at enough
  obtain ⟨fuel, rfl⟩ : ∃ less, fuel = less + 1 := ⟨fuel - 1, by omega⟩
  rw [List.cons_append, List.append_assoc]
  cases members with
  | nil => rfl
  | cons x members =>
    have read_members := readMembers_tokens back fuel rest (by omega)
    obtain ⟨after, begins⟩ := intercalate_head (.string (some x.1)) (.colon :: x.2.tokens)
      (members.map memberOf) (.closeObject :: rest)
    simp only [List.map_cons, List.singleton_append] at read_members ⊢
    rw [memberOf, begins] at read_members ⊢
    rw [read]
    · rw [read_members]
    · intro later same
      cases same

theorem IsPlain.isReadBack {v : Value} (h : v.IsPlain) : v.IsReadBack := by
  induction h with
  | null | bool | string =>
    intro fuel rest enough
    obtain ⟨fuel, rfl⟩ : ∃ less, fuel = less + 1 := ⟨fuel - 1, by simp [tokens] at enough; omega⟩
    rfl
  | array plain ih => exact isReadBack_array ih plain
  | object plain ih => exact isReadBack_object ih

/-- Text that spells a value's tokens reads as the value and nothing else. -/
theorem ofText_spelled {v : Value} (plain : v.IsPlain) {text : String}
    (spelled : SpellsTokens v.tokens text.toList) : ofText text = (v, true) := by
  have back := plain.isReadBack (2 * v.tokens.length + 2) [] (by omega)
  rw [List.append_nil] at back
  simp only [ofText, Token.ofText_spelled spelled, back, List.isEmpty_nil]

/-- A text of a value. -/
def write (v : Value) : String := String.ofList (v.tokens.flatMap Token.spell)

theorem hasSpelling_intercalate (lists : List (List Token))
    (h : ∀ tokens ∈ lists, ∀ t ∈ tokens, t.HasSpelling) :
    ∀ t ∈ [Token.comma].intercalate lists, t.HasSpelling := by
  induction lists with
  | nil => simp
  | cons first rest ih =>
    obtain ⟨spelled, others⟩ := List.forall_mem_cons.1 h
    cases rest with
    | nil => rwa [List.intercalate_singleton]
    | cons second rest =>
      rw [List.intercalate_cons_cons]
      intro t member
      rcases List.mem_append.1 member with earlier | later
      · rcases List.mem_append.1 earlier with inside | separator
        · exact spelled t inside
        · rw [List.mem_singleton.1 separator]
          trivial
      · exact ih others t later

theorem IsPlain.hasSpelling {v : Value} (h : v.IsPlain) : ∀ t ∈ v.tokens, t.HasSpelling := by
  induction h with
  | null | bool | string =>
    intro t member
    rw [List.mem_singleton.1 member]
    trivial
  | @array items plain ih =>
    have inside := hasSpelling_intercalate (items.map tokens) (by simpa using ih)
    intro t member
    rw [tokens, itemTokens_eq, List.mem_cons, List.mem_append, List.mem_singleton] at member
    rcases member with rfl | member | rfl
    · trivial
    · exact inside t member
    · trivial
  | @object members plain ih =>
    have inside := hasSpelling_intercalate (members.map memberOf) (by
      intro tokens listed t member
      obtain ⟨x, known, rfl⟩ := List.mem_map.1 listed
      rw [memberOf, List.mem_cons, List.mem_cons] at member
      rcases member with rfl | rfl | member
      · trivial
      · trivial
      · exact ih x known t member)
    intro t member
    rw [ofMembers, tokens, memberTokens_eq, List.mem_cons, List.mem_append, List.mem_singleton]
      at member
    rcases member with rfl | member | rfl
    · trivial
    · exact inside t member
    · trivial

theorem IsPlain.spells_write {v : Value} (h : v.IsPlain) :
    SpellsTokens v.tokens v.write.toList := by
  rw [write, String.toList_ofList]
  exact Token.spellsTokens_spell _ h.hasSpelling

end Value

end HostCall.Json
