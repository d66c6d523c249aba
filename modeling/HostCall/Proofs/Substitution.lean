import HostCall.Settings
import Mathlib.Data.List.Infix

/-!
Filling in templates. Two occurrences of a mark cannot overlap, so a text falls apart at them in one
way only. A filled-in template is these pieces with the value between them: where the value is put
does not depend on what is in it, and it is put at every occurrence of the mark.
-/
namespace HostCall

namespace Template

/-- A mark is not empty, and nothing but itself and the empty text both begins and ends it. -/
structure IsMark (mark : List Char) : Prop where
  ne_nil : mark ≠ []
  unbordered : ∀ border, border <+: mark → border <:+ mark → border = [] ∨ border = mark

/-- How often a mark occurs in a text, counted at all places where it may begin. -/
def occurrences (mark text : List Char) : Nat := text.tails.countP mark.isPrefixOf

theorem isMark_of_head {c : Char} {rest : List Char} (once : c ∉ rest) : IsMark (c :: rest) := by
  refine ⟨List.cons_ne_nil c rest, ?_⟩
  intro border begins ends
  rcases List.suffix_cons_iff.1 ends with whole | inner
  · exact .inr whole
  · cases border with
    | nil => exact .inl rfl
    | cons d border =>
      have first : d = c := (List.cons_prefix_cons.1 begins).1
      exact absurd (inner.subset (first ▸ List.mem_cons_self)) once

section Pieces

variable {mark : List Char}

theorem cut_skip (mark : List Char) (skip : Nat) (text : List Char) :
    cut mark skip text = cut mark 0 (text.drop skip) := by
  induction skip generalizing text with
  | zero => rfl
  | succ skip ih =>
    cases text with
    | nil => rfl
    | cons c rest => exact ih rest

theorem pieces_ne_nil (mark text : List Char) : pieces mark text ≠ [] := List.cons_ne_nil _ _

theorem isPrefixOf_append (mark rest : List Char) : mark.isPrefixOf (mark ++ rest) = true :=
  List.isPrefixOf_iff_prefix.2 (List.prefix_append mark rest)

theorem pieces_mark (filled : mark ≠ []) (rest : List Char) :
    pieces mark (mark ++ rest) = [] :: pieces mark rest := by
  cases mark with
  | nil => exact absurd rfl filled
  | cons c inner =>
    have found := isPrefixOf_append (c :: inner) rest
    unfold pieces
    rw [List.cons_append] at found ⊢
    rw [cut, if_pos found, cut_skip]
    simp

theorem pieces_cons {c : Char} {rest first : List Char} {others : List (List Char)}
    (absent : ¬ mark <+: c :: rest) (whole : pieces mark rest = first :: others) :
    pieces mark (c :: rest) = (c :: first) :: others := by
  cases whole
  unfold pieces
  rw [cut, if_neg (mt List.isPrefixOf_iff_prefix.1 absent)]

/-- A text is empty, or begins with the mark, or with a character at which no mark begins. -/
@[elab_as_elim]
theorem mark_induction {motive : List Char → Prop} (filled : mark ≠ []) (nil : motive [])
    (found : ∀ rest, motive rest → motive (mark ++ rest))
    (other : ∀ c rest, ¬ mark <+: c :: rest → motive rest → motive (c :: rest))
    (text : List Char) : motive text := by
  induction size : text.length using Nat.strongRecOn generalizing text with
  | ind n ih =>
    cases text with
    | nil => exact nil
    | cons c rest =>
      by_cases begins : mark <+: c :: rest
      · obtain ⟨after, same⟩ := begins
        rw [← same] at size ⊢
        have shorter : after.length < n := by
          have positive := List.length_pos_iff.2 filled
          rw [List.length_append] at size
          omega
        exact found after (ih _ shorter after rfl)
      · have shorter : rest.length < n := by
          rw [List.length_cons] at size
          omega
        exact other c rest begins (ih _ shorter rest rfl)

theorem intercalate_pieces (filled : mark ≠ []) (text : List Char) :
    mark.intercalate (pieces mark text) = text := by
  induction text using mark_induction filled with
  | nil => rfl
  | found rest ih =>
    rw [pieces_mark filled, List.intercalate_cons_of_ne_nil (pieces_ne_nil mark rest), ih,
      List.nil_append]
  | other c rest absent ih =>
    obtain ⟨first, others, whole⟩ := List.exists_cons_of_ne_nil (pieces_ne_nil mark rest)
    rw [pieces_cons absent whole, List.intercalate_cons_cons_left, ← whole, ih]

theorem prefix_intercalate (mark first : List Char) (others : List (List Char)) :
    first <+: mark.intercalate (first :: others) := by
  cases others with
  | nil => simp
  | cons next others =>
    rw [List.intercalate_cons_cons, List.append_assoc]
    exact List.prefix_append ..

theorem unmarked_pieces (filled : mark ≠ []) (text : List Char) :
    ∀ part ∈ pieces mark text, ¬ mark <:+: part := by
  have empty : ¬ mark <:+: [] := fun inside => filled (List.eq_nil_of_infix_nil inside)
  induction text using mark_induction filled with
  | nil =>
    intro part member
    rw [List.mem_singleton.1 member]
    exact empty
  | found rest ih =>
    rw [pieces_mark filled]
    exact List.forall_mem_cons.2 ⟨empty, ih⟩
  | other c rest absent ih =>
    obtain ⟨first, others, whole⟩ := List.exists_cons_of_ne_nil (pieces_ne_nil mark rest)
    rw [whole] at ih
    obtain ⟨here, later⟩ := List.forall_mem_cons.1 ih
    rw [pieces_cons absent whole]
    refine List.forall_mem_cons.2 ⟨?_, later⟩
    intro inside
    rcases List.infix_cons_iff.1 inside with begins | inner
    · have kept : first <+: rest := by
        rw [← intercalate_pieces filled rest, whole]
        exact prefix_intercalate mark first others
      exact absent (begins.trans (List.cons_prefix_cons.2 ⟨rfl, kept⟩))
    · exact here inner

end Pieces

section Unbordered

variable {mark : List Char}

/-- Where a mark begins inside a text, it ends before the mark that follows the text begins. -/
theorem IsMark.not_overlaps (h : IsMark mark) {text : List Char} (filled : text ≠ [])
    (absent : ¬ mark <+: text) (rest : List Char) : ¬ mark <+: text ++ (mark ++ rest) := by
  rintro ⟨after, same⟩
  rcases List.append_eq_append_iff.1 same with ⟨more, whole, _⟩ | ⟨border, whole, others⟩
  · exact absent ⟨more, whole.symm⟩
  · -- what runs over the end of the text begins the next mark and ends this one
    have size : border.length ≤ mark.length := by
      rw [whole, List.length_append]
      omega
    have begins : border <+: mark :=
      List.prefix_of_prefix_length_le ⟨after, others.symm⟩ (List.prefix_append mark rest) size
    rcases h.unbordered border begins ⟨text, whole.symm⟩ with none | all
    · rw [none, List.append_nil] at whole
      exact absent (whole ▸ List.prefix_refl mark)
    · rw [all] at whole
      exact filled (List.append_left_eq_self.1 whole.symm)

theorem pieces_of_unmarked {part : List Char} (unmarked : ¬ mark <:+: part) :
    pieces mark part = [part] := by
  induction part with
  | nil => rfl
  | cons c rest ih =>
    rw [List.infix_cons_iff, not_or] at unmarked
    exact pieces_cons unmarked.1 (ih unmarked.2)

theorem IsMark.pieces_append (h : IsMark mark) {part : List Char} (unmarked : ¬ mark <:+: part)
    (rest : List Char) : pieces mark (part ++ (mark ++ rest)) = part :: pieces mark rest := by
  induction part with
  | nil => exact pieces_mark h.ne_nil rest
  | cons c inner ih =>
    rw [List.infix_cons_iff, not_or] at unmarked
    have absent := h.not_overlaps (List.cons_ne_nil c inner) unmarked.1 rest
    rw [List.cons_append] at absent ⊢
    exact pieces_cons absent (ih unmarked.2)

/-- Pieces without the mark are found again in the text that they make. -/
theorem IsMark.pieces_intercalate (h : IsMark mark) {parts : List (List Char)}
    (filled : parts ≠ []) (unmarked : ∀ part ∈ parts, ¬ mark <:+: part) :
    pieces mark (mark.intercalate parts) = parts := by
  induction parts with
  | nil => exact absurd rfl filled
  | cons first others ih =>
    obtain ⟨here, later⟩ := List.forall_mem_cons.1 unmarked
    cases others with
    | nil =>
      rw [List.intercalate_singleton]
      exact pieces_of_unmarked here
    | cons next others =>
      rw [List.intercalate_cons_cons, List.append_assoc, h.pieces_append here,
        ih (List.cons_ne_nil next others) later]

theorem occurrences_cons {c : Char} {rest : List Char} (absent : ¬ mark <+: c :: rest) :
    occurrences mark (c :: rest) = occurrences mark rest := by
  unfold occurrences
  rw [List.tails_cons, List.countP_cons_of_neg (mt List.isPrefixOf_iff_prefix.1 absent)]

/-- No mark begins inside another one. -/
theorem IsMark.occurrences_suffix (h : IsMark mark) {inner : List Char} (ends : inner <:+ mark)
    (part : inner ≠ mark) (rest : List Char) :
    occurrences mark (inner ++ rest) = occurrences mark rest := by
  induction inner with
  | nil => rfl
  | cons c inner ih =>
    have absent : ¬ mark <+: c :: (inner ++ rest) := by
      intro begins
      have border : c :: inner <+: mark :=
        List.prefix_of_prefix_length_le (List.prefix_append (c :: inner) rest) begins ends.length_le
      rcases h.unbordered _ border ends with none | all
      · cases none
      · exact part all
    have shorter : inner ≠ mark := by
      rintro rfl
      exact absurd ends.length_le (by simp)
    rw [List.cons_append, occurrences_cons absent]
    exact ih ((List.suffix_cons c inner).trans ends) shorter

theorem IsMark.occurrences_append (h : IsMark mark) (rest : List Char) :
    occurrences mark (mark ++ rest) = occurrences mark rest + 1 := by
  cases mark with
  | nil => exact absurd rfl h.ne_nil
  | cons c inner =>
    have found := isPrefixOf_append (c :: inner) rest
    have later := h.occurrences_suffix (List.suffix_cons c inner) (by simp) rest
    unfold occurrences at later ⊢
    rw [List.cons_append] at found ⊢
    rw [List.tails_cons, List.countP_cons_of_pos found, later]

theorem IsMark.length_pieces (h : IsMark mark) (text : List Char) :
    (pieces mark text).length = occurrences mark text + 1 := by
  induction text using mark_induction h.ne_nil with
  | nil =>
    have none : occurrences mark [] = 0 := by simp [occurrences, h.ne_nil]
    rw [none]
    rfl
  | found rest ih => rw [pieces_mark h.ne_nil, List.length_cons, ih, h.occurrences_append]
  | other c rest absent ih =>
    obtain ⟨first, others, whole⟩ := List.exists_cons_of_ne_nil (pieces_ne_nil mark rest)
    rw [pieces_cons absent whole, occurrences_cons absent, ← ih, whole]
    rfl

end Unbordered

theorem length_intercalate (sep : String) {parts : List String} (filled : parts ≠ []) :
    (sep.intercalate parts).length + sep.length =
      (String.join parts).length + parts.length * sep.length := by
  induction parts with
  | nil => exact absurd rfl filled
  | cons first others ih =>
    cases others with
    | nil => simp
    | cons next others =>
      have tail := ih (List.cons_ne_nil next others)
      rw [String.intercalate_cons_cons, String.length_append, String.length_append,
        String.join_cons, String.length_append, List.length_cons, Nat.succ_mul]
      omega

/-- The pieces of a template: texts without the mark that are the template when it is put between
them. -/
structure IsCut (mark template : String) (parts : List String) : Prop where
  ne_nil : parts ≠ []
  unmarked : ∀ part ∈ parts, ¬ mark.toList <:+: part.toList
  joined : mark.intercalate parts = template

section Cuts

variable {mark template : String} {parts others : List String}

theorem exists_isCut (filled : mark.toList ≠ []) (template : String) :
    ∃ parts, IsCut mark template parts := by
  have back (xs : List (List Char)) : (xs.map String.ofList).map String.toList = xs := by simp
  refine ⟨(pieces mark.toList template.toList).map String.ofList, ?_, ?_, ?_⟩
  · exact mt List.map_eq_nil_iff.1 (pieces_ne_nil _ _)
  · intro part member
    obtain ⟨chars, piece, rfl⟩ := List.mem_map.1 member
    rw [String.toList_ofList]
    exact unmarked_pieces filled template.toList chars piece
  · apply String.toList_inj.1
    rw [String.toList_intercalate, back, intercalate_pieces filled]

namespace IsCut

theorem pieces_eq (cut : IsCut mark template parts) (h : IsMark mark.toList) :
    pieces mark.toList template.toList = parts.map String.toList := by
  rw [← cut.joined, String.toList_intercalate]
  apply h.pieces_intercalate (mt List.map_eq_nil_iff.1 cut.ne_nil)
  intro chars member
  obtain ⟨part, given, rfl⟩ := List.mem_map.1 member
  exact cut.unmarked part given

theorem unique (cut : IsCut mark template parts) (other : IsCut mark template others)
    (h : IsMark mark.toList) : others = parts := by
  have same := (other.pieces_eq h).symm.trans (cut.pieces_eq h)
  exact List.map_injective_iff.2 (fun _ _ => String.toList_inj.1) same

theorem instantiate_eq (cut : IsCut mark template parts) (h : IsMark mark.toList)
    (value : String) : instantiate mark template value = value.intercalate parts := by
  apply String.toList_inj.1
  rw [String.toList_intercalate, ← cut.pieces_eq h]
  exact String.toList_ofList

example : instantiate "<v>" "<v<v><v>" "<v>!" = "<v<v>!<v>!" := by decide +kernel

theorem length_eq (cut : IsCut mark template parts) (h : IsMark mark.toList) :
    parts.length = occurrences mark.toList template.toList + 1 := by
  rw [← h.length_pieces, cut.pieces_eq h, List.length_map]

/-- As many values are put in as there are marks, each in the place of one. -/
theorem length_intercalate_eq (cut : IsCut mark template parts) (h : IsMark mark.toList)
    (value : String) :
    (value.intercalate parts).length + occurrences mark.toList template.toList * mark.length =
      template.length + occurrences mark.toList template.toList * value.length := by
  have withValue := length_intercalate value cut.ne_nil
  have withMark := length_intercalate mark cut.ne_nil
  rw [cut.length_eq h, Nat.succ_mul] at withValue withMark
  rw [cut.joined] at withMark
  omega

end IsCut

end Cuts

end Template

theorem isMark_valueMark : Template.IsMark valueMark.toList :=
  Template.isMark_of_head (by decide)

/-- The statement that hands a result to the guest. The template has its pieces once and for all;
a value is put between them as it is, also where it has the mark in it. -/
theorem Settings.returnStatement_substitutes (settings : Settings) :
    ∃ parts, Template.IsCut valueMark settings.returnStore parts ∧
      (∀ others, Template.IsCut valueMark settings.returnStore others → others = parts) ∧
      (∀ value, settings.returnStatement value = value.intercalate parts) ∧
      settings.returnStatement valueMark = settings.returnStore ∧
      let marks := Template.occurrences valueMark.toList settings.returnStore.toList
      parts.length = marks + 1 ∧
        ∀ value, (settings.returnStatement value).length + marks * valueMark.length =
          settings.returnStore.length + marks * value.length := by
  obtain ⟨parts, cut⟩ := Template.exists_isCut isMark_valueMark.ne_nil settings.returnStore
  have substituted (value : String) : settings.returnStatement value = value.intercalate parts :=
    cut.instantiate_eq isMark_valueMark value
  refine ⟨parts, cut, fun others other => cut.unique other isMark_valueMark, substituted, ?_,
    cut.length_eq isMark_valueMark, ?_⟩
  · rw [substituted, cut.joined]
  · intro value
    rw [substituted]
    exact cut.length_intercalate_eq isMark_valueMark value

end HostCall
