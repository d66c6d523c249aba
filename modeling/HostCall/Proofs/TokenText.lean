import HostCall.Json.Value
import Mathlib.Tactic.IntervalCases

/-!
JSON text from the side of its writer: in which ways a character, a string and a token can be
written. Whichever way is taken, scanning gives back what was written.
-/
namespace HostCall.Json

/-- A hexadecimal digit of either case. -/
def HexDigit (value : Nat) (c : Char) : Prop :=
  "0123456789abcdef".toList[value]? = some c ∨ "0123456789ABCDEF".toList[value]? = some c

/-- A 16-bit number in its four digits. -/
inductive SpellsUnit : Nat → List Char → Prop
  | digits {w x y z : Nat} {a b c d : Char} (first : HexDigit w a) (second : HexDigit x b)
      (third : HexDigit y c) (fourth : HexDigit z d) :
      SpellsUnit (((w * 16 + x) * 16 + y) * 16 + z) [a, b, c, d]

/-- What may follow a backslash, each with the character that it stands for. -/
def shortForms : List (Char × Char) :=
  [('"', '"'), ('\\', '\\'), ('/', '/'), ('b', '\x08'), ('f', '\x0c'), ('n', '\n'), ('r', '\r'),
    ('t', '\t')]

inductive SpellsChar : Char → List Char → Prop
  | plain {c : Char} (visible : 0x20 ≤ c.toNat) (noQuote : c ≠ '"') (noEscape : c ≠ '\\') :
      SpellsChar c [c]
  | short {letter c : Char} (listed : (letter, c) ∈ shortForms) : SpellsChar c ['\\', letter]
  | escaped {c : Char} {digits : List Char} (unit : SpellsUnit c.toNat digits) :
      SpellsChar c ('\\' :: 'u' :: digits)
  /-- Characters beyond the first 65536 are a surrogate pair. -/
  | pair {c : Char} {high low : Nat} {first second : List Char}
      (value : c.toNat = 0x10000 + high * 0x400 + low) (highBound : high < 0x400)
      (lowBound : low < 0x400) (highUnit : SpellsUnit (0xd800 + high) first)
      (lowUnit : SpellsUnit (0xdc00 + low) second) :
      SpellsChar c ('\\' :: 'u' :: (first ++ '\\' :: 'u' :: second))

inductive SpellsString : List Char → List Char → Prop
  | nil : SpellsString [] []
  | cons {c : Char} {s spelling text : List Char} (first : SpellsChar c spelling)
      (rest : SpellsString s text) : SpellsString (c :: s) (spelling ++ text)

/-- Numbers are left out. -/
inductive SpellsToken : Token → List Char → Prop
  | openArray : SpellsToken .openArray ['[']
  | closeArray : SpellsToken .closeArray [']']
  | openObject : SpellsToken .openObject ['\x7b']
  | closeObject : SpellsToken .closeObject ['\x7d']
  | comma : SpellsToken .comma [',']
  | colon : SpellsToken .colon [':']
  | null : SpellsToken .null ['n', 'u', 'l', 'l']
  | true : SpellsToken (.bool true) ['t', 'r', 'u', 'e']
  | false : SpellsToken (.bool false) ['f', 'a', 'l', 's', 'e']
  | string {s : String} {text : List Char} (content : SpellsString s.toList text) :
      SpellsToken (.string (some s)) ('"' :: (text ++ ['"']))

/-- Tokens in their order, with any blanks around them. -/
inductive SpellsTokens : List Token → List Char → Prop
  | nil : SpellsTokens [] []
  | blank {c : Char} {tokens : List Token} {text : List Char}
      (isBlank : c ∈ [' ', '\t', '\n', '\r']) (rest : SpellsTokens tokens text) : SpellsTokens tokens (c :: text)
  | cons {t : Token} {tokens : List Token} {spelling text : List Char}
      (first : SpellsToken t spelling) (rest : SpellsTokens tokens text) :
      SpellsTokens (t :: tokens) (spelling ++ text)

theorem HexDigit.hexValue? {value : Nat} {c : Char} (h : HexDigit value c) :
    Text.hexValue? c = some value := by
  have bound : value < 16 := by
    rcases h with h | h <;> exact (List.getElem?_eq_some_iff.1 h).1
  unfold HexDigit at h
  interval_cases value <;> rcases h with h | h <;> cases h <;> rfl

theorem SpellsUnit.ofDigits? {unit : Nat} {digits : List Char} (h : SpellsUnit unit digits) :
    Text.ofDigits? 16 digits = some unit := by
  cases h with
  | digits first second third fourth =>
    simp only [Text.ofDigits?, List.foldlM_cons, List.foldlM_nil, first.hexValue?, second.hexValue?,
      third.hexValue?, fourth.hexValue?, Option.map_some, Option.bind_eq_bind, Option.bind_some,
      Option.pure_def, Option.some.injEq]
    omega

theorem SpellsUnit.four_digits {unit : Nat} {digits : List Char} (h : SpellsUnit unit digits) :
    ∃ a b c d, digits = [a, b, c, d] := by
  cases h with
  | digits => exact ⟨_, _, _, _, rfl⟩

namespace Token

theorem scanString_unit {unit : Nat} {digits : List Char} (h : SpellsUnit unit digits)
    (text : List Char) :
    scanString ('\\' :: 'u' :: (digits ++ text)) =
      (scanString text).map fun (pieces, rest) => (.escaped unit :: pieces, rest) := by
  have value := h.ofDigits?
  cases h with
  | digits first second third fourth =>
    simp only [List.cons_append, List.nil_append, scanString, value]
    cases scanString text <;> rfl

theorem scanString_short {letter c : Char} (listed : (letter, c) ∈ shortForms) (text : List Char) :
    scanString ('\\' :: letter :: text) =
      (scanString text).map fun (pieces, rest) => (.char c :: pieces, rest) := by
  have known : shortEscape? letter = some c ∧ letter ≠ 'u' := by
    simp only [shortForms, List.mem_cons, Prod.mk.injEq, List.not_mem_nil, or_false] at listed
    rcases listed with h | h | h | h | h | h | h | h <;> obtain ⟨rfl, rfl⟩ := h <;> decide
  obtain ⟨known, other⟩ := known
  rw [scanString]
  · rw [known]
    cases scanString text <;> rfl
  · intro a b x d rest isUnit
    exact absurd isUnit other

theorem scanString_plain {c : Char} (visible : 0x20 ≤ c.toNat) (noQuote : c ≠ '"')
    (noEscape : c ≠ '\\') (text : List Char) :
    scanString (c :: text) =
      (scanString text).map fun (pieces, rest) => (.char c :: pieces, rest) := by
  rw [scanString]
  · have accepted : ¬(decide (c.toNat < 0x20) || decide (c = '\\')) = true := by
      simp only [Bool.or_eq_true, decide_eq_true_eq, noEscape, or_false, Nat.not_lt]
      exact visible
    rw [if_neg accepted]
    cases scanString text <;> rfl
  · exact noQuote
  · intro a b x d rest h
    exact absurd h noEscape
  · intro e rest h
    exact absurd h noEscape

theorem decode_escaped {unit : Nat} (high : isHighSurrogate unit = false)
    (low : isLowSurrogate unit = false) (rest : List Piece) :
    decode (.escaped unit :: rest) = (decode rest).map (Char.ofNat unit :: ·) := by
  cases rest with
  | nil => simp [decode, high, low]
  | cons piece rest =>
    cases piece with
    | char c => simp [decode, high, low]
    | escaped other => simp [decode, high, low]

theorem decode_pair {high low : Nat} (highBound : high < 0x400) (lowBound : low < 0x400)
    (rest : List Piece) :
    decode (.escaped (0xd800 + high) :: .escaped (0xdc00 + low) :: rest) =
      (decode rest).map (Char.ofNat (0x10000 + high * 0x400 + low) :: ·) := by
  have isHigh : isHighSurrogate (0xd800 + high) = true := by
    simp only [isHighSurrogate, Bool.and_eq_true, decide_eq_true_eq]
    omega
  have isLow : isLowSurrogate (0xdc00 + low) = true := by
    simp only [isLowSurrogate, Bool.and_eq_true, decide_eq_true_eq]
    omega
  simp only [decode, isHigh, isLow, if_true, pairValue, Nat.add_sub_cancel_left]

theorem not_surrogate (c : Char) :
    isHighSurrogate c.toNat = false ∧ isLowSurrogate c.toNat = false := by
  have valid : c.toNat < 0xd800 ∨ 0xdfff < c.toNat := c.valid.imp id And.left
  simp only [isHighSurrogate, isLowSurrogate, Bool.and_eq_false_iff, decide_eq_false_iff_not]
  omega

/-- The units that a spelling consists of: they are scanned from it, and they mean the character. -/
theorem exists_pieces {c : Char} {spelling : List Char} (h : SpellsChar c spelling) :
    ∃ pieces : List Piece,
      (∀ text, scanString (spelling ++ text) =
        (scanString text).map fun (others, rest) => (pieces ++ others, rest)) ∧
      ∀ others, decode (pieces ++ others) = (decode others).map (c :: ·) := by
  cases h with
  | plain visible noQuote noEscape =>
    exact ⟨[.char c], scanString_plain visible noQuote noEscape, fun others => rfl⟩
  | short listed => exact ⟨[.char c], scanString_short listed, fun others => rfl⟩
  | escaped unit =>
    obtain ⟨high, low⟩ := not_surrogate c
    refine ⟨[.escaped c.toNat], scanString_unit unit, fun others => ?_⟩
    have meaning := decode_escaped high low others
    rwa [Char.ofNat_toNat] at meaning
  | @pair _ high low first second value highBound lowBound highUnit lowUnit =>
    refine ⟨[.escaped (0xd800 + high), .escaped (0xdc00 + low)], fun text => ?_, fun others => ?_⟩
    · have spelt : '\\' :: 'u' :: (first ++ '\\' :: 'u' :: second) ++ text =
          '\\' :: 'u' :: (first ++ '\\' :: 'u' :: (second ++ text)) := by simp
      rw [spelt, scanString_unit highUnit, scanString_unit lowUnit, Option.map_map]
      rfl
    · have meaning := decode_pair highBound lowBound others
      rwa [← value, Char.ofNat_toNat] at meaning

theorem scanString_spelled {s text : List Char} (h : SpellsString s text) :
    ∃ pieces, (∀ rest, scanString (text ++ '"' :: rest) = some (pieces, rest)) ∧
      decode pieces = some s := by
  induction h with
  | nil => exact ⟨[], fun rest => rfl, rfl⟩
  | cons first _ ih =>
    obtain ⟨others, scanned, meaning⟩ := ih
    obtain ⟨pieces, scan, decoded⟩ := exists_pieces first
    refine ⟨pieces ++ others, fun rest => ?_, ?_⟩
    · rw [List.append_assoc, scan, scanned]
      rfl
    · rw [decoded, meaning]
      rfl

theorem next_spelled {t : Token} {spelling : List Char} (h : SpellsToken t spelling)
    (rest : List Char) : next (spelling ++ rest) = some (t, rest) := by
  cases h with
  | openArray | closeArray | openObject | closeObject | comma | colon | null | true | false => rfl
  | @string s text content =>
    obtain ⟨pieces, scanned, meaning⟩ := scanString_spelled content
    have spelt : '"' :: (text ++ ['"']) ++ rest = '"' :: (text ++ '"' :: rest) := by simp
    rw [spelt, next, scanned]
    simp only [Option.map_some, meaning, String.ofList_toList]

theorem isBlank_iff {c : Char} : isBlank c = true ↔ c ∈ [' ', '\t', '\n', '\r'] := by
  simp [isBlank, or_assoc]

theorem head_spelled {t : Token} {spelling : List Char} (h : SpellsToken t spelling) :
    ∃ c text, spelling = c :: text ∧ isBlank c = false := by
  cases h <;> exact ⟨_, _, rfl, rfl⟩

theorem scanAll_spelled {tokens : List Token} {text : List Char} (h : SpellsTokens tokens text)
    {fuel : Nat} (enough : text.length ≤ fuel) : scanAll fuel text = tokens := by
  induction h generalizing fuel with
  | nil => rw [scanAll]
  | blank blank _ ih =>
    cases fuel with
    | zero => simp at enough
    | succ fuel =>
      rw [scanAll, if_pos (isBlank_iff.2 blank)]
      exact ih (Nat.le_of_succ_le_succ enough)
  | @cons t tokens spelling text first _ ih =>
    obtain ⟨c, others, rfl, visible⟩ := head_spelled first
    have step := next_spelled first text
    rw [List.cons_append] at step enough ⊢
    rw [List.length_cons, List.length_append] at enough
    cases fuel with
    | zero => simp at enough
    | succ fuel =>
      rw [scanAll, if_neg (by simp [visible]), step]
      exact congrArg (t :: ·) (ih (by omega))

theorem ofText_spelled {tokens : List Token} {text : List Char} (h : SpellsTokens tokens text) :
    ofText text = tokens :=
  scanAll_spelled h le_rfl

def hexDigit (value : Nat) : Char := "0123456789abcdef".toList.getD value '0'

/-- Only what cannot stand for itself is escaped. -/
def spellChar (c : Char) : List Char :=
  if c = '"' ∨ c = '\\' then ['\\', c]
  else if c.toNat < 0x20 then
    ['\\', 'u', '0', '0', hexDigit (c.toNat / 16), hexDigit (c.toNat % 16)]
  else [c]

/-- A spelling of a token, if it has any. -/
def spell : Token → List Char
  | openArray => ['[']
  | closeArray => [']']
  | openObject => ['\x7b']
  | closeObject => ['\x7d']
  | comma => [',']
  | colon => [':']
  | null => ['n', 'u', 'l', 'l']
  | bool Bool.true => ['t', 'r', 'u', 'e']
  | bool Bool.false => ['f', 'a', 'l', 's', 'e']
  | string (some s) => '"' :: (s.toList.flatMap spellChar ++ ['"'])
  | number _ | string none | junk => []

def HasSpelling : Token → Prop
  | number _ | string none | junk => False
  | openArray | closeArray | openObject | closeObject | comma | colon | null | bool _
  | string (some _) => True

theorem hexDigit_spec {value : Nat} (bound : value < 16) : HexDigit value (hexDigit value) := by
  have known : value < "0123456789abcdef".toList.length := bound
  left
  rw [hexDigit, List.getD_eq_getElem?_getD, List.getElem?_eq_getElem known, Option.getD_some]

theorem spellsChar_spellChar (c : Char) : SpellsChar c (spellChar c) := by
  unfold spellChar
  split
  · next marked =>
    rcases marked with rfl | rfl <;> exact .short (by simp [shortForms])
  · next unmarked =>
    obtain ⟨noQuote, noEscape⟩ := not_or.1 unmarked
    split
    · next control =>
      have digits : SpellsUnit (((0 * 16 + 0) * 16 + c.toNat / 16) * 16 + c.toNat % 16)
          ['0', '0', hexDigit (c.toNat / 16), hexDigit (c.toNat % 16)] :=
        .digits (.inl rfl) (.inl rfl) (hexDigit_spec (by omega)) (hexDigit_spec (by omega))
      have value : ((0 * 16 + 0) * 16 + c.toNat / 16) * 16 + c.toNat % 16 = c.toNat := by omega
      rw [value] at digits
      exact .escaped digits
    · next visible => exact .plain (Nat.le_of_not_lt visible) noQuote noEscape

theorem spellsToken_spell {t : Token} (h : t.HasSpelling) : SpellsToken t t.spell := by
  have spells (s : List Char) : SpellsString s (s.flatMap spellChar) := by
    induction s with
    | nil => exact .nil
    | cons c s ih => exact .cons (spellsChar_spellChar c) ih
  unfold HasSpelling at h
  unfold spell
  split at h
  · exact h.elim
  · exact h.elim
  · exact h.elim
  · constructor
  · constructor
  · constructor
  · constructor
  · constructor
  · constructor
  · constructor
  · next value => cases value <;> constructor
  · exact .string (spells _)

theorem spellsTokens_spell (tokens : List Token) (h : ∀ t ∈ tokens, t.HasSpelling) :
    SpellsTokens tokens (tokens.flatMap spell) := by
  induction tokens with
  | nil => exact .nil
  | cons t tokens ih =>
    obtain ⟨first, others⟩ := List.forall_mem_cons.1 h
    exact .cons (spellsToken_spell first) (ih others)

end Token

theorem SpellsTokens.append {first second : List Token} {text more : List Char}
    (h : SpellsTokens first text) (others : SpellsTokens second more) :
    SpellsTokens (first ++ second) (text ++ more) := by
  induction h with
  | nil => exact others
  | blank isBlank _ ih => exact .blank isBlank ih
  | cons spelled _ ih =>
    rw [List.append_assoc]
    exact .cons spelled ih

end HostCall.Json
