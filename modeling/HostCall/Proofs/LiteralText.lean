import HostCall.Proofs.Warning

/-!
Reading string literals. A reader begins after the opening quote and stops at the first quote that
no backslash escapes. It accepts exactly what escaping produces, so a text has one literal, whatever
is in the text and whatever follows the literal. The report of a null declaration is such a literal,
in the declaration and in every wrapper that has it.
-/
namespace HostCall

namespace Literal

/-- What a character after a backslash stands for. -/
def unescape? : Char → Option Char
  | '\\' => some '\\'
  | '"' => some '"'
  | 'n' => some '\n'
  | _ => none

/-- Reads on in a literal: the text up to its closing quote, and what follows that quote. A line
feed as itself and an escape of any other kind are refused. -/
def scan : List Char → Option (List Char × List Char)
  | [] => none
  | '"' :: rest => some ([], rest)
  | '\n' :: _ => none
  | ['\\'] => none
  | '\\' :: c :: rest => do
    let meant ← unescape? c
    (scan rest).map (Prod.map (meant :: ·) id)
  | c :: rest => (scan rest).map (Prod.map (c :: ·) id)

/-- Reads a literal from its opening quote on. -/
def read? (input : String) : Option (String × String) :=
  (scan input.toList).map (Prod.map String.ofList String.ofList)

section Scan

variable {c : Char} {rest text following : List Char}

theorem scan_plain (slash : c ≠ '\\') (quote : c ≠ '"') (line : c ≠ '\n') :
    scan (c :: rest) = (scan rest).map (Prod.map (c :: ·) id) := by
  rw [scan.eq_def]
  split
  all_goals simp_all

theorem escapeChar_plain (slash : c ≠ '\\') (quote : c ≠ '"') (line : c ≠ '\n') :
    escapeChar c = [c] := by
  simp [escapeChar]

theorem escapeChar_of_unescape {meant : Char} (h : unescape? c = some meant) :
    escapeChar meant = ['\\', c] := by
  unfold unescape? at h
  split at h
  · cases h
    rfl
  · cases h
    rfl
  · cases h
    rfl
  · cases h

theorem scan_escapeChar (c : Char) (rest : List Char) :
    scan (escapeChar c ++ rest) = (scan rest).map (Prod.map (c :: ·) id) := by
  by_cases slash : c = '\\'
  · subst slash
    rfl
  by_cases quote : c = '"'
  · subst quote
    rfl
  by_cases line : c = '\n'
  · subst line
    rfl
  · rw [escapeChar_plain slash quote line]
    exact scan_plain slash quote line

theorem escapeChars_cons (c : Char) (text : List Char) :
    escapeChars (c :: text) = escapeChar c ++ escapeChars text := rfl

/-- Nothing in an escaped text ends a literal: the reader goes on after it with what follows. -/
theorem scan_escapeChars (text rest : List Char) :
    scan (escapeChars text ++ rest) = (scan rest).map (Prod.map (text ++ ·) id) := by
  induction text with
  | nil => exact Option.map_id'.symm
  | cons c text ih =>
    rw [escapeChars_cons, List.append_assoc, scan_escapeChar, ih, Option.map_map]
    rfl

theorem eq_of_scan {input : List Char} (h : scan input = some (text, following)) :
    input = escapeChars text ++ '"' :: following := by
  fun_induction scan input generalizing text following with
  | case1 => cases h
  | case2 rest =>
    cases h
    rfl
  | case3 => cases h
  | case4 => cases h
  | case5 c rest ih =>
    obtain ⟨meant, escaped, h⟩ := Option.bind_eq_some_iff.1 h
    obtain ⟨⟨others, last⟩, read, same⟩ := Option.map_eq_some_iff.1 h
    cases same
    rw [ih read, id, escapeChars_cons, escapeChar_of_unescape escaped]
    rfl
  | case6 c rest quote line alone paired ih =>
    obtain ⟨⟨others, last⟩, read, same⟩ := Option.map_eq_some_iff.1 h
    cases same
    -- a backslash would have been read together with what it escapes
    have slash : c ≠ '\\' := by
      rintro rfl
      cases rest with
      | nil => exact alone rfl rfl
      | cons d rest => exact paired d rest rfl rfl
    rw [ih read, escapeChars_cons, escapeChar_plain slash quote line]
    rfl

end Scan

theorem toList_escape (text : String) : (escape text).toList = escapeChars text.toList :=
  String.toList_ofList

theorem read?_escape_append (text rest : String) :
    read? (escape text ++ rest) = (read? rest).map (Prod.map (text ++ ·) id) := by
  unfold read?
  rw [String.toList_append, toList_escape, scan_escapeChars, Option.map_map, Option.map_map]
  congr 1
  funext ⟨read, following⟩
  simp

/-- The reader accepts exactly what escaping produces, and stops at the quote after it. -/
theorem read?_eq_some_iff {input text following : String} :
    read? input = some (text, following) ↔ input = escape text ++ "\"" ++ following := by
  constructor
  · intro h
    obtain ⟨⟨chars, rest⟩, read, same⟩ := Option.map_eq_some_iff.1 h
    cases same
    apply String.toList_inj.1
    rw [eq_of_scan read]
    simp [toList_escape]
  · rintro rfl
    rw [String.append_assoc, read?_escape_append]
    simp [read?, scan]

example : read? "a\\\"\\\\\", b" = some ("a\"\\", ", b") := by decide +kernel

example : read? "a\\t\"" = none := by decide +kernel

/-- Between quotes a literal is read as the text, and nothing after its closing quote is looked at. -/
def Spells (literal text : String) : Prop :=
  ∀ following, read? (literal ++ "\"" ++ following) = some (text, following)

theorem spells_escape (text : String) : Spells (escape text) text :=
  fun _ => read?_eq_some_iff.2 rfl

theorem escape_injective : Function.Injective escape := by
  intro first second same
  have read := spells_escape first ""
  rw [same, spells_escape second ""] at read
  cases read
  rfl

/-- A literal does not end inside an escaped text. -/
theorem read?_eq_none_of_escape {text early more : String} (h : escape text = early ++ more) :
    read? early = none := by
  cases read : read? early with
  | none => rfl
  | some found =>
    have closed : escape text = escape found.1 ++ "\"" ++ (found.2 ++ more) := by
      rw [h, read?_eq_some_iff.1 read, String.append_assoc]
    have complete := read?_eq_some_iff.2 closed
    have unclosed := read?_escape_append text ""
    rw [String.append_empty, complete] at unclosed
    cases unclosed

end Literal

/-- The text of a null declaration up to the opening quote of its report. -/
def reportStart (settings : Settings) (p : Param) : String :=
  nullGuard p ++ "        " ++ settings.logFunction ++ "("

/-- The text of a null declaration from the closing quote of its report on. -/
def reportEnd (p : Param) : String :=
  ");\n" ++
  "        " ++ "shown_" ++ p.name ++ " = true;\n" ++
  "    " ++ "\x7d\n" ++
  "    " ++ p.type ++ "* " ++ p.name ++ " = NULL;\n"

/-- Behind the guard of a parameter, a text logs one literal that names function and type. -/
def HasReport (settings : Settings) (function : String) (p : Param) (text : String) : Prop :=
  ∃ literal, text = reportStart settings p ++ "\"" ++ literal ++ "\"" ++ reportEnd p ∧
    Literal.Spells literal (function ++ ":" ++ p.type ++ " not implemented")

theorem declareNull_hasReport (settings : Settings) (function : String) (p : Param) :
    HasReport settings function p (Strategy.declareNull settings function p).text := by
  refine ⟨_, ?_, Literal.spells_escape _⟩
  unfold Strategy.declareNull reportStart reportEnd nullGuard shownFlagName
  simp only [bodyLine_one, bodyLine_two, String.append_assoc]
  rfl

namespace Generator

variable {g : Generator} {f : HostFunction} {p : Param}

/-- A wrapper has the declaration of each of its parameters, as the parameter gets it alone. -/
theorem exists_declaration {text : String} (complete : (g.emit f).result = .ok text)
    (member : p ∈ f.params) :
    ∃ d before after, text = before ++ d.text ++ after ∧
      (g.catalog.strategy f.name p).declare g.catalog g.settings f.name p = .ok d := by
  rw [emit_result] at complete
  obtain ⟨declared, rfl⟩ := HostFunction.attempt_eq_ok complete
  generalize (f.attempt g.catalog g.settings).declarations = ds at declared
  obtain ⟨d, made, alone⟩ := exists_of_forall₂ declared member
  obtain ⟨earlier, later, rfl⟩ := List.append_of_mem made
  obtain ⟨head, tail, split⟩ := g.assembled_split f (earlier ++ d :: later)
  refine ⟨d, head ++ String.join (earlier.map (·.text)),
    String.join (later.map (·.text)) ++ tail, ?_, alone⟩
  rw [wrapperText_eq_assembled, split]
  simp only [List.map_append, List.map_cons, String.join_append, String.join_cons,
    String.append_assoc]

/-- The diagnostic that the emulator logs for an excluded type is one literal: read from its opening
quote it says which function and type it is about and ends at the quote that was written to close
it, alone and in a wrapper. No text that is escaped can end a literal or be taken for another. -/
theorem report_is_literal (g : Generator) :
    (∀ (function : Signature) (p : Param), g.catalog.passesNull p = true →
      ∃ d, (g.declare .structIn function p).result = .ok d ∧
        HasReport g.settings function.name p d.text) ∧
    (∀ (f : HostFunction) (text : String) (p : Param), (g.emit f).result = .ok text →
      p ∈ f.params → g.catalog.strategy f.name p = .structIn →
      g.catalog.isExcluded p.type = true →
      ∃ before report after, text = before ++ report ++ after ∧
        HasReport g.settings f.name p report) ∧
    (∀ input text following, Literal.read? input = some (text, following) ↔
      input = Literal.escape text ++ "\"" ++ following) ∧
    Function.Injective Literal.escape ∧
    ∀ text early more, Literal.escape text = early ++ more → Literal.read? early = none := by
  refine ⟨?_, ?_, fun _ _ _ => Literal.read?_eq_some_iff, Literal.escape_injective,
    fun _ _ _ => Literal.read?_eq_none_of_escape⟩
  · intro function p null
    have declared := declare_of_passesNull g.settings function.name null
    exact ⟨_, declare_eq_ok_iff.2 declared, declareNull_hasReport g.settings function.name p⟩
  · intro f text p complete member chosen excluded
    obtain ⟨d, before, after, split, declared⟩ := exists_declaration complete member
    have made := Strategy.declareStruct_of_chosen g.settings chosen
    rw [if_pos excluded] at made
    rw [chosen] at declared
    cases declared.symm.trans made
    exact ⟨before, _, after, split, declareNull_hasReport g.settings f.name p⟩

end Generator

/-- A quote, a line feed and an escaped line feed, with backslashes before, between and at the end. -/
def oddTypeName : String := "\\\"\n\\n\\"

def oddlyExcluding : Generator := { catalog := { excluded := [oddTypeName] } }

def takesOddType : HostFunction := { name := "vkOdd", params := [pointerTo oddTypeName] }

theorem report_is_literal_oddTypeName :
    oddlyExcluding.catalog.passesNull (pointerTo oddTypeName) = true ∧
    (∃ d, (oddlyExcluding.declare .structIn { name := "vk\"\\" } (pointerTo oddTypeName)).result =
        .ok d ∧ HasReport {} "vk\"\\" (pointerTo oddTypeName) d.text) ∧
    ∃ text, (oddlyExcluding.emit takesOddType).result = .ok text ∧
      ∃ before report after, text = before ++ report ++ after ∧
        HasReport {} "vkOdd" (pointerTo oddTypeName) report := by
  obtain ⟨declares, wraps, _⟩ := Generator.report_is_literal oddlyExcluding
  have null : oddlyExcluding.catalog.passesNull (pointerTo oddTypeName) = true := by decide
  obtain ⟨text, complete⟩ :=
    Generator.ok_of_wraps (g := oddlyExcluding) (f := takesOddType) (by decide)
  exact ⟨null, declares _ _ null, text, complete,
    wraps takesOddType text _ complete List.mem_cons_self (by decide) (by decide)⟩

end HostCall
