import HostCall.Proofs.TokenText
import HostCall.Toml.Document
import Mathlib.Data.List.DropRight

/-!
Values and keys in TOML text from the side of their writer: strings in double quotes with any of
their escapes, arrays of strings, and bare keys, with blanks and comments wherever they may be.
Whichever way they are written, reading gives back what was written.
-/
namespace HostCall.Toml

open Json (HexDigit SpellsUnit)

/-- What may follow a backslash, each with the character that it stands for. -/
def shortForms : List (Char × Char) :=
  [('b', '\x08'), ('t', '\t'), ('n', '\n'), ('f', '\x0c'), ('r', '\r'), ('"', '"'), ('\\', '\\')]

inductive SpellsChar : Char → List Char → Prop
  | plain {c : Char} (visible : isPlain c = true) (noQuote : c ≠ '"') (noEscape : c ≠ '\\') :
      SpellsChar c [c]
  | short {letter c : Char} (listed : (letter, c) ∈ shortForms) : SpellsChar c ['\\', letter]
  | unit {c : Char} {digits : List Char} (number : SpellsUnit c.toNat digits) :
      SpellsChar c ('\\' :: 'u' :: digits)
  | units {c : Char} {high low : Nat} {first second : List Char}
      (value : c.toNat = high * 0x10000 + low) (highUnit : SpellsUnit high first)
      (lowUnit : SpellsUnit low second) : SpellsChar c ('\\' :: 'U' :: (first ++ second))

inductive SpellsString : List Char → List Char → Prop
  | nil : SpellsString [] []
  | cons {c : Char} {s spelling text : List Char} (first : SpellsChar c spelling)
      (rest : SpellsString s text) : SpellsString (c :: s) (spelling ++ text)

def Blanks (text : List Char) : Prop := ∀ c ∈ text, isBlank c = true

def IsLineBreak (text : List Char) : Prop := text = ['\n'] ∨ text = ['\r', '\n']

/-- Blanks, line breaks and comments. -/
inductive Trivia : List Char → Prop
  | nil : Trivia []
  | blank {c : Char} {text : List Char} (blank : isBlank c = true) (rest : Trivia text) :
      Trivia (c :: text)
  | lineBreak {ends text : List Char} (lineBreak : IsLineBreak ends) (rest : Trivia text) :
      Trivia (ends ++ text)
  | comment {words ends text : List Char} (plain : ∀ c ∈ words, isPlain c = true)
      (lineBreak : IsLineBreak ends) (rest : Trivia text) :
      Trivia ('#' :: (words ++ (ends ++ text)))

/-- The strings of an array up to its closing bracket; a comma may come last. -/
inductive SpellsItems : List String → List Char → Prop
  | nil {before : List Char} (trivia : Trivia before) : SpellsItems [] (before ++ [']'])
  | last {s : String} {before text after : List Char} (trivia : Trivia before)
      (spelled : SpellsString s.toList text) (more : Trivia after) :
      SpellsItems [s] (before ++ '"' :: (text ++ '"' :: (after ++ [']'])))
  | cons {s : String} {items : List String} {before text after others : List Char}
      (trivia : Trivia before) (spelled : SpellsString s.toList text) (more : Trivia after)
      (rest : SpellsItems items others) :
      SpellsItems (s :: items) (before ++ '"' :: (text ++ '"' :: (after ++ ',' :: others)))

inductive SpellsValue : Item → List Char → Prop
  | string {s : String} {text : List Char} (spelled : SpellsString s.toList text) :
      SpellsValue (.string s) ('"' :: (text ++ ['"']))
  | strings {items : List String} {text : List Char} (spelled : SpellsItems items text) :
      SpellsValue (.array (items.map .string)) ('[' :: text)

def IsBareKey (key : String) : Prop := key.toList ≠ [] ∧ ∀ c ∈ key.toList, isKeyChar c = true

inductive SpellsPath : List String → List Char → Prop
  | last {key : String} {after : List Char} (bare : IsBareKey key) (blanks : Blanks after) :
      SpellsPath [key] (key.toList ++ after)
  | cons {key : String} {path : List String} {after before text : List Char} (bare : IsBareKey key)
      (blanks : Blanks after) (more : Blanks before) (rest : SpellsPath path text) :
      SpellsPath (key :: path) (key.toList ++ (after ++ '.' :: (before ++ text)))

theorem numbered?_unit {c : Char} {digits : List Char} (h : SpellsUnit c.toNat digits) :
    numbered? digits = some c := by
  have valid : c.toNat.isValidChar := c.valid
  simp [numbered?, h.ofDigits?, valid, Char.ofNat_toNat]

theorem ofDigits?_units {high low : Nat} {first second : List Char}
    (highUnit : SpellsUnit high first) (lowUnit : SpellsUnit low second) :
    Text.ofDigits? 16 (first ++ second) = some (high * 0x10000 + low) := by
  have upper := highUnit.ofDigits?
  unfold Text.ofDigits? at upper ⊢
  rw [List.foldlM_append, upper]
  cases lowUnit with
  | digits first second third fourth =>
    simp only [Option.bind_eq_bind, Option.bind_some, List.foldlM_cons, List.foldlM_nil,
      first.hexValue?, second.hexValue?, third.hexValue?, fourth.hexValue?, Option.map_some,
      Option.pure_def, Option.some.injEq]
    omega

theorem numbered?_units {c : Char} {high low : Nat} {first second : List Char}
    (value : c.toNat = high * 0x10000 + low) (highUnit : SpellsUnit high first)
    (lowUnit : SpellsUnit low second) : numbered? (first ++ second) = some c := by
  have valid : c.toNat.isValidChar := c.valid
  simp [numbered?, ofDigits?_units highUnit lowUnit, ← value, valid, Char.ofNat_toNat]

theorem shortEscape?_listed {letter c : Char} (listed : (letter, c) ∈ shortForms) :
    shortEscape? letter = some c ∧ letter ≠ 'u' ∧ letter ≠ 'U' := by
  simp only [shortForms, List.mem_cons, Prod.mk.injEq, List.not_mem_nil, or_false] at listed
  rcases listed with h | h | h | h | h | h | h <;> obtain ⟨rfl, rfl⟩ := h <;> decide

theorem basicString_spelledChar {c : Char} {spelling : List Char} (h : SpellsChar c spelling)
    (text : List Char) : basicString (spelling ++ text) = prepend c (basicString text) := by
  cases h with
  | plain visible noQuote noEscape =>
    rw [List.cons_append, List.nil_append, basicString]
    · simp [visible, noEscape]
    · exact noQuote
    · intro a b d e rest h
      exact absurd h noEscape
    · intro a b d e f g h i rest h
      exact absurd h noEscape
    · intro e rest h
      exact absurd h noEscape
  | @short letter _ listed =>
    obtain ⟨known, notUnit, notUnits⟩ := shortEscape?_listed listed
    rw [List.cons_append, List.cons_append, List.nil_append, basicString]
    · rw [known]
      rfl
    · intro a b d e rest h
      exact absurd h notUnit
    · intro a b d e f g h i rest h
      exact absurd h notUnits
  | unit number =>
    have value := numbered?_unit number
    obtain ⟨_, _, _, _, rfl⟩ := number.four_digits
    simp only [List.cons_append, List.nil_append, basicString, value, Option.bind_some]
  | units value highUnit lowUnit =>
    have value := numbered?_units value highUnit lowUnit
    obtain ⟨_, _, _, _, rfl⟩ := highUnit.four_digits
    obtain ⟨_, _, _, _, rfl⟩ := lowUnit.four_digits
    simp only [List.cons_append, List.nil_append] at value ⊢
    simp only [basicString, value, Option.bind_some]

theorem basicString_spelled {s text : List Char} (h : SpellsString s text) (rest : List Char) :
    basicString (text ++ '"' :: rest) = some (s, rest) := by
  induction h with
  | nil => rfl
  | cons first _ ih =>
    rw [List.append_assoc, basicString_spelledChar first, ih]
    rfl

/-- A string that is written out does not begin with a quote. -/
theorem SpellsString.head_ne {s text : List Char} (h : SpellsString s text) :
    text = [] ∨ ∃ c rest, text = c :: rest ∧ c ≠ '"' := by
  cases h with
  | nil => exact .inl rfl
  | cons first _ =>
    cases first with
    | plain visible noQuote noEscape => exact .inr ⟨_, _, rfl, noQuote⟩
    | short | unit | units => exact .inr ⟨_, _, rfl, by decide⟩

theorem quotedString?_spelled {s text rest : List Char} (h : SpellsString s text)
    (apart : ∀ others, rest ≠ '"' :: others) :
    quotedString? ('"' :: (text ++ '"' :: rest)) = some (s, rest) := by
  have read := basicString_spelled h rest
  rcases h.head_ne with rfl | ⟨c, more, rfl, noQuote⟩
  · rw [List.nil_append] at read ⊢
    rw [quotedString?, read]
    intro others same
    injection same with _ same
    exact apart others same
  · rw [List.cons_append] at read ⊢
    rw [quotedString?, read]
    intro others same
    injection same with same
    exact noQuote same

section Blanks

variable {text before rest : List Char} {c : Char}

theorem Blanks.nil : Blanks [] := List.forall_mem_nil _

theorem skipBlanks_append (blanks : Blanks before) :
    skipBlanks (before ++ text) = skipBlanks text := by
  unfold skipBlanks
  rw [List.dropWhile_append_of_pos blanks]

theorem skipBlanks_cons (visible : isBlank c = false) : skipBlanks (c :: text) = c :: text :=
  List.dropWhile_cons_of_neg (by simp [visible])

end Blanks

section Trivia

theorem isBlank_iff {c : Char} : isBlank c = true ↔ c = ' ' ∨ c = '\t' := by
  simp [isBlank]

theorem isPlain_ne_break {c : Char} (h : isPlain c = true) : c ≠ '\n' ∧ c ≠ '\r' := by
  constructor <;> rintro rfl <;> exact absurd h (by decide)

theorem skipTrivia_comment {words : List Char} (plain : ∀ c ∈ words, isPlain c = true)
    (text : List Char) : skipTrivia true (words ++ text) = skipTrivia true text := by
  induction words with
  | nil => rfl
  | cons c words ih =>
    obtain ⟨first, others⟩ := List.forall_mem_cons.1 plain
    obtain ⟨noFeed, noReturn⟩ := isPlain_ne_break first
    rw [List.cons_append, skipTrivia, if_pos rfl, if_pos first]
    · exact ih others
    · exact noFeed
    · intro rest same
      exact absurd same noReturn

theorem skipTrivia_append {before : List Char} (h : Trivia before) (text : List Char) :
    skipTrivia false (before ++ text) = skipTrivia false text := by
  induction h with
  | nil => rfl
  | blank blank _ ih =>
    rcases isBlank_iff.1 blank with rfl | rfl <;> exact ih
  | lineBreak lineBreak _ ih =>
    rcases lineBreak with rfl | rfl <;> exact ih
  | @comment words ends more plain lineBreak _ ih =>
    have inside : skipTrivia false ('#' :: (words ++ (ends ++ more)) ++ text) =
        skipTrivia true (words ++ (ends ++ (more ++ text))) := by
      rw [List.cons_append, List.append_assoc, List.append_assoc]
      rfl
    rw [inside, skipTrivia_comment plain]
    rcases lineBreak with rfl | rfl <;> exact ih

end Trivia

section Keys

variable {key : String} {path : List String} {text before rest : List Char} {c : Char}

theorem isKeyChar_ne_quote (h : isKeyChar c = true) : c ≠ '"' ∧ c ≠ '\'' := by
  constructor <;> rintro rfl <;> exact absurd h (by decide)

theorem simpleKey?_bare (bare : IsBareKey key) (stops : isKeyChar c = false) :
    simpleKey? (key.toList ++ c :: rest) = some (key.toList, c :: rest) := by
  obtain ⟨filled, all⟩ := bare
  have taken : (key.toList ++ c :: rest).takeWhile isKeyChar = key.toList := by
    rw [List.takeWhile_append_of_pos all, List.takeWhile_cons_of_neg (by simp [stops]),
      List.append_nil]
  have left : (key.toList ++ c :: rest).dropWhile isKeyChar = c :: rest := by
    rw [List.dropWhile_append_of_pos all, List.dropWhile_cons_of_neg (by simp [stops])]
  cases spelled : key.toList with
  | nil => exact absurd spelled filled
  | cons first others =>
    rw [spelled] at taken left all
    obtain ⟨noQuote, noApostrophe⟩ := isKeyChar_ne_quote (all first (List.mem_cons_self ..))
    rw [List.cons_append] at taken left ⊢
    rw [simpleKey?, taken, left]
    · exact fun _ same => noQuote (List.cons.inj same).1
    · exact fun _ same => noApostrophe (List.cons.inj same).1

/-- What may follow a dotted key. -/
def EndsPath (c : Char) : Prop := c = '=' ∨ c = ']'

theorem EndsPath.stops (h : EndsPath c) : isKeyChar c = false ∧ isBlank c = false ∧ c ≠ '.' := by
  rcases h with rfl | rfl <;> decide

/-- A key ends where blanks or something that ends a key follow. -/
theorem head_after_blanks (blanks : Blanks before) (stops : isKeyChar c = false)
    (rest : List Char) :
    ∃ d more, before ++ c :: rest = d :: more ∧ isKeyChar d = false := by
  cases before with
  | nil => exact ⟨c, rest, rfl, stops⟩
  | cons d more =>
    refine ⟨d, more ++ c :: rest, rfl, ?_⟩
    rcases isBlank_iff.1 (blanks d (List.mem_cons_self ..)) with rfl | rfl <;> decide

theorem skipBlanks_key (bare : IsBareKey key) (rest : List Char) :
    skipBlanks (key.toList ++ rest) = key.toList ++ rest := by
  obtain ⟨filled, all⟩ := bare
  cases spelled : key.toList with
  | nil => exact absurd spelled filled
  | cons first others =>
    have isKey := all first (spelled ▸ List.mem_cons_self ..)
    have visible : isBlank first = false := by
      cases blank : isBlank first with
      | false => rfl
      | true => rcases isBlank_iff.1 blank with rfl | rfl <;> exact absurd isKey (by decide)
    exact skipBlanks_cons visible

theorem keyPath?_spelled (h : SpellsPath path text) {room : Nat} (enough : path.length ≤ room)
    (blanks : Blanks before) (ends : EndsPath c) :
    keyPath? room (before ++ (text ++ c :: rest)) = some (path, c :: rest) := by
  obtain ⟨stops, visible, noDot⟩ := ends.stops
  induction h generalizing room before with
  | @last key after bare more =>
    obtain ⟨d, others, same, stop⟩ := head_after_blanks more stops rest
    cases room with
    | zero => simp at enough
    | succ room =>
      rw [keyPath?, skipBlanks_append blanks, List.append_assoc, skipBlanks_key bare, same,
        simpleKey?_bare bare stop, ← same]
      simp only [Option.bind_eq_bind, Option.bind_some, skipBlanks_append more,
        skipBlanks_cons visible, String.ofList_toList]
      split
      · rename_i dotted
        exact absurd (List.cons.inj dotted).1 noDot
      · rfl
  | @cons key path after between text bare more inner _ ih =>
    obtain ⟨d, others, same, stop⟩ :=
      head_after_blanks (c := '.') more rfl (between ++ (text ++ c :: rest))
    cases room with
    | zero => simp at enough
    | succ room =>
      have tail := ih (Nat.le_of_succ_le_succ enough) inner
      have spelled : key.toList ++ (after ++ '.' :: (between ++ text)) ++ c :: rest =
          key.toList ++ (after ++ '.' :: (between ++ (text ++ c :: rest))) := by simp
      rw [keyPath?, skipBlanks_append blanks, spelled, skipBlanks_key bare, same,
        simpleKey?_bare bare stop, ← same]
      simp only [Option.bind_eq_bind, Option.bind_some, skipBlanks_append more,
        skipBlanks_cons (show isBlank '.' = false from rfl), tail, String.ofList_toList]
      rfl

end Keys

section Values

variable {before text rest : List Char} {s : String} {c : Char}

theorem Trivia.head_ne (h : Trivia before) (notQuote : c ≠ '"') (others : List Char) :
    before ++ c :: rest ≠ '"' :: others := by
  cases h with
  | nil => exact fun same => notQuote (List.cons.inj same).1
  | blank blank _ =>
    rcases isBlank_iff.1 blank with rfl | rfl <;>
      exact fun same => absurd (List.cons.inj same).1 (by decide)
  | lineBreak lineBreak _ =>
    rcases lineBreak with rfl | rfl <;> exact fun same => absurd (List.cons.inj same).1 (by decide)
  | comment _ _ _ => exact fun same => absurd (List.cons.inj same).1 (by decide)

theorem value?_string {fuel room : Nat} (h : SpellsString s.toList text)
    (apart : ∀ others, rest ≠ '"' :: others) :
    value? (fuel + 1) room ('"' :: (text ++ '"' :: rest)) = some (.string s, rest) := by
  rw [value?, quotedString?_spelled h apart]
  simp

/-- Reading a string in an array comes to what follows it. -/
theorem items?_string {fuel room : Nat} (trivia : Trivia before) (h : SpellsString s.toList text)
    (apart : ∀ others, rest ≠ '"' :: others) :
    items? (fuel + 2) room (before ++ '"' :: (text ++ '"' :: rest)) =
      (skipTrivia false rest).bind fun
        | ',' :: rest =>
          (items? (fuel + 1) room rest).bind fun (items, rest) => some (.string s :: items, rest)
        | ']' :: rest => some ([.string s], rest)
        | _ => none := by
  have begins : skipTrivia false ('"' :: (text ++ '"' :: rest)) =
    some ('"' :: (text ++ '"' :: rest)) := rfl
  rw [items?, skipTrivia_append trivia, begins]
  simp only [Option.bind_eq_bind, Option.bind_some]
  split
  · rename_i closed
    exact absurd (List.cons.inj closed).1 (by decide)
  · rw [value?_string h apart]
    rfl

theorem items?_spelled {items : List String} (h : SpellsItems items text) {fuel : Nat}
    (enough : items.length + 2 ≤ fuel) (room : Nat) (rest : List Char) :
    items? fuel room (text ++ rest) = some (items.map .string, rest) := by
  induction h generalizing fuel with
  | nil trivia =>
    obtain ⟨fuel, rfl⟩ := Nat.exists_eq_add_of_le' (Nat.le_of_add_left_le enough)
    rw [items?, List.append_assoc, skipTrivia_append trivia]
    rfl
  | @last s before text after trivia spelled more =>
    obtain ⟨fuel, rfl⟩ := Nat.exists_eq_add_of_le' (Nat.le_of_add_left_le enough)
    have split : before ++ '"' :: (text ++ '"' :: (after ++ [']'])) ++ rest =
        before ++ '"' :: (text ++ '"' :: (after ++ ']' :: rest)) := by simp
    rw [split, items?_string trivia spelled (more.head_ne (by decide)), skipTrivia_append more]
    rfl
  | @cons s items before text after others trivia spelled more _ ih =>
    obtain ⟨fuel, rfl⟩ := Nat.exists_eq_add_of_le' (Nat.le_of_add_left_le enough)
    have split : before ++ '"' :: (text ++ '"' :: (after ++ ',' :: others)) ++ rest =
        before ++ '"' :: (text ++ '"' :: (after ++ ',' :: (others ++ rest))) := by simp
    have follows : skipTrivia false (',' :: (others ++ rest)) = some (',' :: (others ++ rest)) :=
      rfl
    have tail := ih (Nat.le_of_succ_le_succ enough)
    rw [split, items?_string trivia spelled (more.head_ne (by decide)), skipTrivia_append more,
      follows]
    simp only [Option.bind_some, tail]
    rfl

theorem SpellsItems.length_le {items : List String} (h : SpellsItems items text) :
    items.length < text.length := by
  induction h with
  | nil => simp
  | last =>
    simp only [List.length_cons, List.length_append, List.length_nil]
    omega
  | cons _ _ _ _ ih =>
    simp only [List.length_cons, List.length_append]
    omega

/-- What comes after a value is neither another quote nor cut off by it. -/
theorem value?_spelled {item : Item} (h : SpellsValue item text)
    (apart : ∀ others, rest ≠ '"' :: others) :
    value? (2 * (text ++ rest).length + 2) nestingRoom (text ++ rest) = some (item, rest) := by
  cases h with
  | @string s text spelled =>
    have split : '"' :: (text ++ ['"']) ++ rest = '"' :: (text ++ '"' :: rest) := by simp
    rw [split]
    exact value?_string spelled apart
  | @strings items text spelled =>
    have shorter := spelled.length_le
    rw [List.cons_append, value?]
    rw [if_neg (by decide), items?_spelled spelled]
    · rfl
    · simp only [List.length_cons, List.length_append]
      omega

end Values

section Heads

variable {text : List Char}

theorem SpellsPath.head {path : List String} (h : SpellsPath path text) :
    ∃ c more, text = c :: more ∧ isKeyChar c = true := by
  have begins {key : String} (bare : IsBareKey key) (others : List Char) :
      ∃ c more, key.toList ++ others = c :: more ∧ isKeyChar c = true := by
    obtain ⟨filled, all⟩ := bare
    cases spelled : key.toList with
    | nil => exact absurd spelled filled
    | cons c more => exact ⟨c, more ++ others, rfl, all c (spelled ▸ List.mem_cons_self ..)⟩
  cases h with
  | last bare _ => exact begins bare _
  | cons bare _ _ _ => exact begins bare _

theorem SpellsValue.head {item : Item} (h : SpellsValue item text) :
    ∃ c more, text = c :: more ∧ isBlank c = false := by
  cases h <;> exact ⟨_, _, rfl, rfl⟩

end Heads

section Spelling

/-- Only what cannot stand for itself is escaped. -/
def spellChar (c : Char) : List Char :=
  if c = '"' ∨ c = '\\' then ['\\', c]
  else if isPlain c then [c]
  else ['\\', 'u', '0', '0', Json.Token.hexDigit (c.toNat / 16), Json.Token.hexDigit (c.toNat % 16)]

def spellString (s : String) : List Char := '"' :: (s.toList.flatMap spellChar ++ ['"'])

/-- A spelling of an item, if it is a string or an array of strings. -/
def Item.spell : Item → List Char
  | .string s => spellString s
  | .array items => '[' :: (items.flatMap spellElement ++ [']'])
  | _ => []
where
  spellElement : Item → List Char
    | .string s => spellString s ++ [',']
    | _ => []

def Item.HasSpelling (item : Item) : Prop :=
  (∃ s, item = .string s) ∨ ∃ items : List String, item = .array (items.map .string)

def spellPath : List String → List Char
  | [] => []
  | [key] => key.toList
  | key :: path => key.toList ++ '.' :: spellPath path

def IsBarePath (path : List String) : Prop :=
  path ≠ [] ∧ path.length ≤ keyRoom ∧ ∀ key ∈ path, IsBareKey key

instance : DecidablePred IsBareKey := fun key =>
  decidable_of_iff (key.toList ≠ [] ∧ key.toList.all isKeyChar = true) (by
    rw [IsBareKey, List.all_eq_true])

instance : DecidablePred IsBarePath := fun path =>
  inferInstanceAs (Decidable (path ≠ [] ∧ path.length ≤ keyRoom ∧ ∀ key ∈ path, IsBareKey key))

theorem toNat_of_not_plain {c : Char} (h : isPlain c = false) : c.toNat < 0x80 := by
  simp only [isPlain, Bool.or_eq_false_iff, Bool.and_eq_false_iff, decide_eq_false_iff_not,
    not_not] at h
  rcases h.2 with low | rfl
  · have bound : c.toNat < ' '.toNat := Nat.lt_of_not_le low
    exact bound.trans (by decide)
  · decide

theorem spellsChar_spellChar (c : Char) : SpellsChar c (spellChar c) := by
  unfold spellChar
  split
  · next marked =>
    rcases marked with rfl | rfl <;> exact .short (by simp [shortForms])
  · next unmarked =>
    obtain ⟨noQuote, noEscape⟩ := not_or.1 unmarked
    split
    · next visible => exact .plain visible noQuote noEscape
    · next hidden =>
      have bound := toNat_of_not_plain (Bool.eq_false_iff.2 hidden)
      have digits : Json.SpellsUnit (((0 * 16 + 0) * 16 + c.toNat / 16) * 16 + c.toNat % 16)
          ['0', '0', Json.Token.hexDigit (c.toNat / 16), Json.Token.hexDigit (c.toNat % 16)] :=
        .digits (.inl rfl) (.inl rfl) (Json.Token.hexDigit_spec (by omega))
          (Json.Token.hexDigit_spec (by omega))
      have value : ((0 * 16 + 0) * 16 + c.toNat / 16) * 16 + c.toNat % 16 = c.toNat := by omega
      rw [value] at digits
      exact .unit digits

theorem spellsString_spell (s : List Char) : SpellsString s (s.flatMap spellChar) := by
  induction s with
  | nil => exact .nil
  | cons c s ih => exact .cons (spellsChar_spellChar c) ih

theorem spellsItems_spell (items : List String) :
    SpellsItems items ((items.map Item.string).flatMap Item.spell.spellElement ++ [']']) := by
  induction items with
  | nil => exact .nil .nil
  | cons s items ih =>
    have spelled := SpellsItems.cons .nil (spellsString_spell s.toList) .nil ih
    simpa [Item.spell.spellElement, spellString] using spelled

theorem spellsValue_spell {item : Item} (h : item.HasSpelling) : SpellsValue item item.spell := by
  rcases h with ⟨s, rfl⟩ | ⟨items, rfl⟩
  · exact .string (spellsString_spell s.toList)
  · exact .strings (spellsItems_spell items)

theorem spellsPath_spell {path : List String} (filled : path ≠ [])
    (bare : ∀ key ∈ path, IsBareKey key) {after : List Char} (blanks : Blanks after) :
    SpellsPath path (spellPath path ++ after) := by
  induction path with
  | nil => exact absurd rfl filled
  | cons key path ih =>
    obtain ⟨first, others⟩ := List.forall_mem_cons.1 bare
    cases path with
    | nil => exact .last first blanks
    | cons next path =>
      have rest := ih (by simp) others
      have spelled := SpellsPath.cons first .nil .nil rest
      simpa [spellPath] using spelled

theorem IsBareKey.path {key : String} (h : IsBareKey key) : IsBarePath [key] :=
  ⟨List.cons_ne_nil _ _, Nat.succ_le_of_lt (by decide), by simpa using h⟩

end Spelling

end HostCall.Toml
