import HostCall.Identifier

/-!
C identifiers as a property of a text. Letters and digits are those of ASCII; a text with any
other character is no identifier, whatever script it is written in.
-/
namespace HostCall

structure IsIdentifier (name : String) : Prop where
  nonempty : name ≠ ""
  parts : ∀ c ∈ name.toList, c.isAlphanum = true ∨ c = '_'
  start : ∀ c rest, name.toList = c :: rest → c.isDigit = false

theorem isAlpha_iff_toNat {c : Char} :
    c.isAlpha = true ↔
      'A'.toNat ≤ c.toNat ∧ c.toNat ≤ 'Z'.toNat ∨ 'a'.toNat ≤ c.toNat ∧ c.toNat ≤ 'z'.toNat := by
  change (decide ('A'.val ≤ c.val ∧ c.val ≤ 'Z'.val) ||
    (decide ('a'.val ≤ c.val) && decide (c.val ≤ 'z'.val))) = true ↔ _
  simp [UInt32.le_iff_toNat_le]

theorem isAlpha_iff_not_digit {c : Char} :
    c.isAlpha = true ↔ c.isAlphanum = true ∧ c.isDigit = false := by
  have apart : c.isAlpha = true → c.isDigit = false := by
    rw [isAlpha_iff_toNat, Bool.eq_false_iff, ne_eq, Char.isDigit_iff_toNat]
    simp only [Char.reduceToNat]
    omega
  constructor
  · intro h
    exact ⟨by simp [Char.isAlphanum, h], apart h⟩
  · rintro ⟨part, digit⟩
    simpa [Char.isAlphanum, digit] using part

theorem isIdentifierStart_iff {c : Char} :
    isIdentifierStart c = true ↔ (c.isAlphanum = true ∨ c = '_') ∧ c.isDigit = false := by
  simp only [isIdentifierStart, Bool.or_eq_true, beq_iff_eq, isAlpha_iff_not_digit]
  constructor
  · rintro (⟨part, digit⟩ | rfl)
    · exact ⟨.inl part, digit⟩
    · exact ⟨.inr rfl, rfl⟩
  · rintro ⟨part | under, digit⟩
    · exact .inl ⟨part, digit⟩
    · exact .inr under

theorem isIdentifier_iff {name : String} : isIdentifier name = true ↔ IsIdentifier name := by
  unfold isIdentifier
  cases h : name.toList with
  | nil =>
    have empty : name = "" := String.toList_eq_nil_iff.1 h
    constructor
    · intro impossible; cases impossible
    · intro identifier; exact absurd empty identifier.nonempty
  | cons c rest =>
    have filled : name ≠ "" := by
      rintro rfl
      cases h
    simp only [Bool.and_eq_true, List.all_eq_true, isIdentifierStart_iff]
    constructor
    · rintro ⟨⟨first, digit⟩, others⟩
      refine ⟨filled, ?_, ?_⟩
      · intro d hd
        rw [h] at hd
        rcases List.mem_cons.1 hd with rfl | hd
        · exact first
        · simpa [isIdentifierPart] using others d hd
      · intro d ds hd
        rw [h] at hd
        cases hd
        exact digit
    · intro identifier
      have parts := identifier.parts
      rw [h] at parts
      refine ⟨⟨parts c (List.mem_cons_self ..), identifier.start c rest h⟩, ?_⟩
      intro d hd
      simpa [isIdentifierPart] using parts d (List.mem_cons_of_mem _ hd)

/-- An identifier before another one makes a longer one. -/
theorem IsIdentifier.append {first second : String} (h : IsIdentifier first)
    (next : IsIdentifier second) : IsIdentifier (first ++ second) := by
  refine ⟨?_, ?_, ?_⟩
  · intro empty
    exact h.nonempty (String.append_eq_empty_iff.1 empty).1
  · intro c member
    rw [String.toList_append] at member
    exact (List.mem_append.1 member).elim (h.parts c) (next.parts c)
  · intro c rest chars
    rw [String.toList_append] at chars
    cases parts : first.toList with
    | nil => exact absurd (String.toList_eq_nil_iff.1 parts) h.nonempty
    | cons d ds =>
      rw [parts, List.cons_append] at chars
      cases chars
      exact h.start c ds parts

end HostCall
