import HostCall.Proofs.TomlText

/-!
The lines of TOML text from the side of their writer, with blanks, comments and empty lines wherever
they may be. A text that spells lines is the document that they build up, and lines can be written
out.
-/
namespace HostCall.Toml

inductive SpellsLine : Line → List Char → Prop
  | assignment {path : List String} {item : Item} {left before right : List Char}
      (short : path.length ≤ keyRoom) (key : SpellsPath path left) (blanks : Blanks before)
      (value : SpellsValue item right) :
      SpellsLine (.assignment path item) (left ++ '=' :: (before ++ right))
  | header {path : List String} {before text : List Char} (short : path.length ≤ keyRoom)
      (blanks : Blanks before) (key : SpellsPath path text) :
      SpellsLine (.header path) ('[' :: (before ++ (text ++ [']'])))
  | element {path : List String} {before text : List Char} (short : path.length ≤ keyRoom)
      (blanks : Blanks before) (key : SpellsPath path text) :
      SpellsLine (.element path) ('[' :: '[' :: (before ++ (text ++ [']', ']'])))

/-- What may follow on a line, and the lines after it. -/
inductive EndsLine : List Char → List Char → Prop
  | blanks {before ends rest : List Char} (blanks : Blanks before)
      (lineBreak : IsLineBreak ends ∨ ends = [] ∧ rest = []) :
      EndsLine (before ++ (ends ++ rest)) rest
  | comment {before words ends rest : List Char} (blanks : Blanks before)
      (plain : ∀ c ∈ words, isPlain c = true)
      (lineBreak : IsLineBreak ends ∨ ends = [] ∧ rest = []) :
      EndsLine (before ++ '#' :: (words ++ (ends ++ rest))) rest

/-- Lines in their order, with empty ones among them. The last one need not be ended. -/
inductive SpellsLines : List Line → List Char → Prop
  | nil : SpellsLines [] []
  | empty {lines : List Line} {c : Char} {text rest : List Char} (ends : EndsLine (c :: text) rest)
      (others : SpellsLines lines rest) : SpellsLines lines (c :: text)
  | cons {line : Line} {lines : List Line} {before text after rest : List Char}
      (blanks : Blanks before) (spelled : SpellsLine line text) (ends : EndsLine after rest)
      (others : SpellsLines lines rest) : SpellsLines (line :: lines) (before ++ (text ++ after))

section Lines

variable {line : Line} {lines : List Line} {before text after rest : List Char}

theorem lineEnd?_skipBlanks (text : List Char) : lineEnd? (skipBlanks text) = lineEnd? text := by
  have idempotent : skipBlanks (skipBlanks text) = skipBlanks text :=
    List.dropWhile_idempotent isBlank text
  rw [lineEnd?, idempotent]
  rfl

theorem EndsLine.lineEnd? (h : EndsLine text rest) : lineEnd? text = some rest := by
  cases h with
  | blanks blanks lineBreak =>
    unfold Toml.lineEnd?
    rw [skipBlanks_append blanks]
    rcases lineBreak with (rfl | rfl) | ⟨rfl, rfl⟩ <;> rfl
  | @comment before words ends _ blanks plain lineBreak =>
    unfold Toml.lineEnd?
    rw [skipBlanks_append blanks, skipBlanks_cons rfl, skipComment,
      List.dropWhile_append_of_pos plain]
    rcases lineBreak with (rfl | rfl) | ⟨rfl, rfl⟩ <;> rfl

theorem EndsLine.head (h : EndsLine after rest) :
    after = [] ∨ ∃ c more, after = c :: more ∧ c ∈ [' ', '\t', '\n', '\r', '#'] := by
  have blank {c : Char} (known : isBlank c = true) : c ∈ [' ', '\t', '\n', '\r', '#'] := by
    rcases isBlank_iff.1 known with rfl | rfl <;> decide
  cases h with
  | @blanks before ends _ blanks lineBreak =>
    cases before with
    | nil =>
      rcases lineBreak with (rfl | rfl) | ⟨rfl, rfl⟩
      · exact .inr ⟨_, _, rfl, by decide⟩
      · exact .inr ⟨_, _, rfl, by decide⟩
      · exact .inl rfl
    | cons c more => exact .inr ⟨c, _, rfl, blank (blanks c (List.mem_cons_self ..))⟩
  | @comment before _ _ _ blanks _ _ =>
    cases before with
    | nil => exact .inr ⟨_, _, rfl, by decide⟩
    | cons c more => exact .inr ⟨c, _, rfl, blank (blanks c (List.mem_cons_self ..))⟩

theorem EndsLine.head_ne (h : EndsLine after rest) (others : List Char) :
    after ≠ '"' :: others := by
  rcases h.head with rfl | ⟨c, more, rfl, listed⟩
  · simp
  · rintro same
    rw [(List.cons.inj same).1] at listed
    exact absurd listed (by decide)

theorem headerPath?_spelled {path : List String} {closing : List Char}
    (short : path.length ≤ keyRoom) (blanks : Blanks before) (key : SpellsPath path text)
    (ends : EndsLine after rest) :
    headerPath? (']' :: closing) (before ++ (text ++ ']' :: (closing ++ after))) =
      some (path, rest) := by
  have first : (']' :: closing).isPrefixOf (']' :: (closing ++ after)) = true := by
    rw [List.isPrefixOf_iff_prefix]
    exact ⟨after, rfl⟩
  have left : (']' :: (closing ++ after)).drop (']' :: closing).length = after := by simp
  rw [headerPath?, keyPath?_spelled key short blanks (.inr rfl)]
  simp only [Option.bind_eq_bind, Option.bind_some, first, if_true, left, ends.lineEnd?]
  rfl

/-- A key that a header names does not look like another bracket. -/
theorem SpellsPath.ne_bracket {path : List String} (h : SpellsPath path text)
    (blanks : Blanks before) (rest others : List Char) :
    before ++ (text ++ rest) ≠ '[' :: others := by
  obtain ⟨c, more, rfl, isKey⟩ := h.head
  cases before with
  | nil =>
    rintro same
    rw [(List.cons.inj same).1] at isKey
    exact absurd isKey (by decide)
  | cons d before =>
    rcases isBlank_iff.1 (blanks d (List.mem_cons_self ..)) with rfl | rfl <;> simp

theorem line?_spelled (h : SpellsLine line text) (ends : EndsLine after rest) :
    line? (text ++ after) = some (line, rest) := by
  cases h with
  | @assignment path item left before right short key blanks value =>
    obtain ⟨d, others, same, visible⟩ := value.head
    have split : left ++ '=' :: (before ++ right) ++ after =
        [] ++ (left ++ '=' :: (before ++ (right ++ after))) := by simp
    have skipped : skipBlanks (before ++ (right ++ after)) = right ++ after := by
      rw [skipBlanks_append blanks, same]
      exact skipBlanks_cons visible
    have noBracket := key.ne_bracket .nil ('=' :: (before ++ (right ++ after)))
    rw [split, line?, keyPath?_spelled key short .nil (.inl rfl)]
    · simp only [Option.bind_eq_bind, Option.bind_some, mark?, if_true, skipped,
        value?_spelled value ends.head_ne, ends.lineEnd?]
      rfl
    · exact fun others => noBracket ('[' :: others)
    · exact noBracket
  | @header path before text short blanks key =>
    have split : '[' :: (before ++ (text ++ [']'])) ++ after =
        '[' :: (before ++ (text ++ ']' :: ([] ++ after))) := by simp
    rw [split, line?, headerPath?_spelled short blanks key ends]
    · rfl
    · intro others same
      exact key.ne_bracket blanks _ others same
  | @element path before text short blanks key =>
    have split : '[' :: '[' :: (before ++ (text ++ [']', ']'])) ++ after =
        '[' :: '[' :: (before ++ (text ++ ']' :: ([']'] ++ after))) := by simp
    rw [split, line?, headerPath?_spelled short blanks key ends]
    rfl

theorem SpellsLine.head (h : SpellsLine line text) :
    ∃ c more, text = c :: more ∧ (isKeyChar c = true ∨ c = '[') := by
  cases h with
  | assignment _ key _ _ =>
    obtain ⟨c, more, rfl, isKey⟩ := key.head
    exact ⟨c, _, rfl, .inl isKey⟩
  | header _ _ _ => exact ⟨_, _, rfl, .inr rfl⟩
  | element _ _ _ => exact ⟨_, _, rfl, .inr rfl⟩

theorem EndsLine.length_le (h : EndsLine text rest) : text = [] ∨ rest.length < text.length := by
  cases h with
  | @blanks before ends _ _ lineBreak =>
    rcases lineBreak with (rfl | rfl) | ⟨rfl, rfl⟩
    · exact .inr (by simp only [List.length_append, List.length_cons]; omega)
    · exact .inr (by simp only [List.length_append, List.length_cons]; omega)
    · cases before with
      | nil => exact .inl rfl
      | cons c more => exact .inr (by simp)
  | comment _ _ _ =>
    exact .inr (by simp only [List.length_append, List.length_cons]; omega)

theorem SpellsLines.eq_nil (h : SpellsLines lines []) : lines = [] := by
  generalize none_left : ([] : List Char) = text at h
  cases h with
  | nil => rfl
  | empty => cases none_left
  | cons _ spelled _ _ =>
    obtain ⟨c, more, rfl, _⟩ := spelled.head
    simp at none_left

/-- What a line begins with is not the end of one. -/
theorem lineEnd?_visible {c : Char} (begins : isKeyChar c = true ∨ c = '[') (rest : List Char) :
    isBlank c = false ∧ lineEnd? (c :: rest) = none := by
  have other (d : Char) (known : isKeyChar d = false) (apart : d ≠ '[') : c ≠ d := by
    rintro rfl
    rcases begins with isKey | isBracket
    · exact absurd (isKey.symm.trans known) (by decide)
    · exact apart isBracket
  have noComment := other '#' rfl (by decide)
  have noFeed := other '\n' rfl (by decide)
  have noReturn := other '\r' rfl (by decide)
  have visible : isBlank c = false := by
    simp [isBlank, other ' ' rfl (by decide), other '\t' rfl (by decide)]
  have kept : skipComment (c :: rest) = c :: rest := by
    rw [skipComment]
    exact fun _ same => noComment (List.cons.inj same).1
  refine ⟨visible, ?_⟩
  rw [lineEnd?, skipBlanks_cons visible, kept]
  simp only
  rw [lineBreak?]
  · exact fun _ same => noFeed (List.cons.inj same).1
  · exact fun _ same => noReturn (List.cons.inj same).1

theorem lines?_spelled (h : SpellsLines lines text) {fuel : Nat} (enough : text.length < fuel) :
    lines? fuel text = some lines := by
  induction h generalizing fuel with
  | nil => cases fuel <;> rfl
  | @empty lines c text rest ends others ih =>
    cases fuel with
    | zero => simp at enough
    | succ fuel =>
      have ended := ends.lineEnd?
      rw [← lineEnd?_skipBlanks] at ended
      rw [lines?]
      cases left : skipBlanks (c :: text) with
      | nil =>
        rw [left] at ended
        cases ended
        rw [others.eq_nil]
      | cons d more =>
        rw [left] at ended
        simp only [ended]
        rcases ends.length_le with impossible | shorter
        · cases impossible
        · exact ih (by omega)
  | @cons line lines before text after rest blanks spelled ends _ ih =>
    cases fuel with
    | zero => simp at enough
    | succ fuel =>
      obtain ⟨c, more, rfl, begins⟩ := spelled.head
      obtain ⟨visible, unended⟩ := lineEnd?_visible begins (more ++ after)
      have read := line?_spelled spelled ends
      have shorter : rest.length ≤ after.length := by
        rcases ends.length_le with rfl | shorter
        · have ended := ends.lineEnd?
          cases ended
          exact le_rfl
        · exact le_of_lt shorter
      rw [List.length_append, List.length_append, List.length_cons] at enough
      have tail : lines? fuel rest = some lines := ih (by omega)
      rw [List.cons_append] at read ⊢
      rw [lines?, skipBlanks_append blanks, skipBlanks_cons visible]
      simp only [unended, read, Option.bind_eq_bind, Option.bind_some, tail]
      rfl

theorem dropMark_spelled (h : SpellsLines lines text) : dropMark text = text := by
  have apart : ∀ others, text ≠ '\ufeff' :: others := by
    rintro others rfl
    generalize marked : '\ufeff' :: others = text at h
    cases h with
    | nil => cases marked
    | empty ends _ =>
      rcases ends.head with impossible | ⟨c, more, same, listed⟩
      · cases impossible
      · rw [same] at marked
        rw [← (List.cons.inj marked).1] at listed
        exact absurd listed (by decide)
    | @cons _ _ before _ _ _ blanks spelled _ _ =>
      cases before with
      | nil =>
        obtain ⟨c, more, rfl, begins⟩ := spelled.head
        rw [← (List.cons.inj marked).1] at begins
        exact absurd begins (by decide)
      | cons d before =>
        have blank := blanks d (List.mem_cons_self ..)
        rw [← (List.cons.inj marked).1] at blank
        exact absurd blank (by decide)
  rw [dropMark]
  exact fun others same => apart others same

/-- A text that spells lines is the document that they build up. -/
theorem ofText?_spelled {document : String} (h : SpellsLines lines document.toList) :
    ofText? document = build lines := by
  have read := lines?_spelled h (Nat.lt_succ_self _)
  rw [ofText?]
  simp only [dropMark_spelled h, read, Option.bind_eq_bind, Option.bind_some]

end Lines

section Spelling

namespace Line

def spell : Line → List Char
  | assignment path item => spellPath path ++ [' ', '=', ' '] ++ item.spell
  | header path => '[' :: (spellPath path ++ [']'])
  | element path => '[' :: '[' :: (spellPath path ++ [']', ']'])

def HasSpelling : Line → Prop
  | assignment path item => IsBarePath path ∧ item.HasSpelling
  | header path | element path => IsBarePath path

end Line

def spellLines (lines : List Line) : List Char := lines.flatMap fun line => line.spell ++ ['\n']

theorem Line.spells_spell {line : Line} (h : line.HasSpelling) : SpellsLine line line.spell := by
  cases line with
  | assignment path item =>
    obtain ⟨bare, hasSpelling⟩ := h
    have blank : Blanks [' '] := by simp [Blanks, isBlank]
    have spelled := SpellsLine.assignment bare.2.1 (spellsPath_spell bare.1 bare.2.2 blank) blank
      (spellsValue_spell hasSpelling)
    simpa [spell] using spelled
  | header path =>
    have spelled := SpellsLine.header h.2.1 .nil (spellsPath_spell h.1 h.2.2 .nil)
    simpa [spell] using spelled
  | element path =>
    have spelled := SpellsLine.element h.2.1 .nil (spellsPath_spell h.1 h.2.2 .nil)
    simpa [spell] using spelled

theorem spellsLines_spell {lines others : List Line} (h : ∀ line ∈ lines, line.HasSpelling)
    {text : List Char} (rest : SpellsLines others text) :
    SpellsLines (lines ++ others) (spellLines lines ++ text) := by
  induction lines with
  | nil => exact rest
  | cons line lines ih =>
    obtain ⟨first, later⟩ := List.forall_mem_cons.1 h
    have ended (more : List Char) : EndsLine ([] ++ (['\n'] ++ more)) more :=
      .blanks .nil (.inl (.inl rfl))
    have spelled := SpellsLines.cons .nil (Line.spells_spell first) (ended _) (ih later)
    simpa [spellLines] using spelled

end Spelling

end HostCall.Toml
