import HostCall.Toml.Moment
import HostCall.Toml.Number
import HostCall.Toml.Text

/-!
TOML documents: values, the lines they stand on, and the table that the lines build up. A text that
is not a document is refused as a whole, so nothing is read from it.
-/
namespace HostCall.Toml

/--
Drops blanks, line breaks and comments between the items of an array. `inComment` says whether the
text begins inside a comment; a comment has to end before the text does.
-/
def skipTrivia (inComment : Bool) : List Char → Option (List Char)
  | [] => if inComment then none else some []
  | '\n' :: rest => skipTrivia false rest
  | '\r' :: '\n' :: rest => skipTrivia false rest
  | c :: rest =>
    if inComment then if isPlain c then skipTrivia true rest else none
    else if isBlank c then skipTrivia false rest
    else if c = '#' then skipTrivia true rest
    else some (c :: rest)

def scalar? : List Char → Option (Item × List Char)
  | 't' :: 'r' :: 'u' :: 'e' :: rest => some (.boolean true, rest)
  | 'f' :: 'a' :: 'l' :: 's' :: 'e' :: rest => some (.boolean false, rest)
  | cs =>
    match moment? cs with
    | some rest => some (.datetime, rest)
    | none => real? cs <|> special? cs <|> integer? cs

/-- The number of parts that a dotted key may have. -/
def keyRoom : Nat := 79

/-- How deep arrays and tables in braces may be nested. -/
def nestingRoom : Nat := 79

mutual

/-- Reads a value, with at most `room` arrays and tables in braces around one another. -/
def value? : Nat → Nat → List Char → Option (Item × List Char)
  | 0, _, _ => none
  | fuel + 1, room, '[' :: rest =>
    if room = 0 then none
    else (items? fuel (room - 1) rest).map fun (items, rest) => (.array items, rest)
  | fuel + 1, room, '\x7b' :: rest =>
    if room = 0 then none
    else
      match skipBlanks rest with
      | '\x7d' :: rest => some (.table .inline [], rest)
      | rest => do
        let (assignments, rest) ← assignments? fuel (room - 1) rest
        let entries ← Entries.assignAll assignments []
        return (.table .inline entries, rest)
  | _ + 1, _, '"' :: rest =>
    (quotedString? ('"' :: rest)).map fun (text, rest) => (.string (String.ofList text), rest)
  | _ + 1, _, '\'' :: rest =>
    (quotedString? ('\'' :: rest)).map fun (text, rest) => (.string (String.ofList text), rest)
  | _ + 1, _, cs => scalar? cs

def items? : Nat → Nat → List Char → Option (List Item × List Char)
  | 0, _, _ => none
  | fuel + 1, room, cs => do
    match ← skipTrivia false cs with
    | ']' :: rest => return ([], rest)
    | cs =>
      let (item, rest) ← value? fuel room cs
      match ← skipTrivia false rest with
      | ',' :: rest => do
        let (items, rest) ← items? fuel room rest
        return (item :: items, rest)
      | ']' :: rest => return ([item], rest)
      | _ => none

/-- Reads the keys and values of a table in braces; no comma comes last. -/
def assignments? : Nat → Nat → List Char → Option (List (List String × Item) × List Char)
  | 0, _, _ => none
  | fuel + 1, room, cs => do
    let (path, rest) ← keyPath? keyRoom cs
    match rest with
    | '=' :: rest =>
      let (item, rest) ← value? fuel room (skipBlanks rest)
      match skipBlanks rest with
      | ',' :: rest => do
        let (assignments, rest) ← assignments? fuel room rest
        return ((path, item) :: assignments, rest)
      | '\x7d' :: rest => return ([(path, item)], rest)
      | _ => none
    | _ => none

end

inductive Line where
  | assignment (path : List String) (value : Item)
  | header (path : List String)
  /-- The header of one table of an array. -/
  | element (path : List String)
  deriving Repr

def headerPath? (closing : List Char) (cs : List Char) : Option (List String × List Char) := do
  let (path, rest) ← keyPath? keyRoom cs
  if closing.isPrefixOf rest then
    let rest ← lineEnd? (rest.drop closing.length)
    return (path, rest)
  else none

def line? (cs : List Char) : Option (Line × List Char) :=
  match cs with
  | '[' :: '[' :: rest =>
    (headerPath? [']', ']'] rest).map fun (path, rest) => (.element path, rest)
  | '[' :: rest => (headerPath? [']'] rest).map fun (path, rest) => (.header path, rest)
  | cs => do
    let (path, rest) ← keyPath? keyRoom cs
    let rest ← mark? '=' rest
    let rest := skipBlanks rest
    let (value, rest) ← value? (2 * rest.length + 2) nestingRoom rest
    let rest ← lineEnd? rest
    return (.assignment path value, rest)

/-- Reads the lines of a text, blank ones apart, at most `fuel` of them. -/
def lines? : Nat → List Char → Option (List Line)
  | 0, cs => if cs.isEmpty then some [] else none
  | fuel + 1, cs =>
    match skipBlanks cs with
    | [] => some []
    | cs =>
      match lineEnd? cs with
      | some rest => lines? fuel rest
      | none => do
        let (line, rest) ← line? cs
        let others ← lines? fuel rest
        return line :: others

/-- The lines under one header: whether it is an element's, its path, and the assignments. -/
structure Section where
  isElement : Bool
  path : List String
  assignments : List (List String × Item)

/-- Splits lines into the assignments before the first header and the sections after it. -/
def sections : List Line → List (List String × Item) × List Section
  | [] => ([], [])
  | line :: rest =>
    let (assignments, others) := sections rest
    match line with
    | .assignment path value => ((path, value) :: assignments, others)
    | .header path => ([], ⟨false, path, assignments⟩ :: others)
    | .element path => ([], ⟨true, path, assignments⟩ :: others)

/-- Adds the table of a section where its path leads. -/
def Section.addTo (s : Section) (entries : Entries) : Option Entries :=
  match s.path.getLast? with
  | none => none
  | some key =>
    let add := if s.isElement then Entries.addElement key s.assignments
      else Entries.addTable key s.assignments
    Entries.descend add s.path.dropLast entries

/-- The table that lines build up, if they do not contradict one another. -/
def build (lines : List Line) : Option Entries := do
  let (assignments, others) := sections lines
  let root ← Entries.assignAll assignments []
  others.foldlM (fun entries s => s.addTo entries) root

/-- Drops a byte order mark at the start of a text. -/
def dropMark : List Char → List Char
  | '\ufeff' :: rest => rest
  | cs => cs

/-- The table of a document, if the text is one. -/
def ofText? (text : String) : Option Entries := do
  let cs := dropMark text.toList
  let lines ← lines? (cs.length + 1) cs
  build lines

end HostCall.Toml
