import HostCall.Files.FileSystem

/-!
File systems without links. A path leads to the place that its parts name one after another, if all
that it passes through are directories; what an operation does with a path is said by that place.
-/
namespace HostCall

namespace Path

/-- The names in a path, apart from what a separator at its end asks for. -/
def names (path : List Char) : List String :=
  ((splitSeparators path).filter (· ≠ [])).map String.ofList

/-- What can name a file in a directory. -/
structure IsFileName (name : String) : Prop where
  nonempty : name ≠ ""
  whole : '/' ∉ name.toList
  ordinary : name ≠ "." ∧ name ≠ ".."

theorem parts_eq (path : String) :
    parts path =
      if endsInSeparator path && !(names path.toList).isEmpty then names path.toList ++ ["."]
      else names path.toList := rfl

theorem splitSeparators_ne_nil (text : List Char) : splitSeparators text ≠ [] := by
  cases text with
  | nil => simp [splitSeparators]
  | cons c rest =>
    unfold splitSeparators
    split
    · simp
    · split <;> simp

theorem splitSeparators_append (first second : List Char) :
    splitSeparators (first ++ '/' :: second) = splitSeparators first ++ splitSeparators second := by
  induction first with
  | nil =>
    obtain ⟨part, parts, split⟩ := List.exists_cons_of_ne_nil (splitSeparators_ne_nil second)
    simp [splitSeparators, split]
  | cons c first ih =>
    obtain ⟨part, parts, split⟩ := List.exists_cons_of_ne_nil (splitSeparators_ne_nil first)
    rw [List.cons_append, splitSeparators, splitSeparators, ih, split]
    by_cases separator : c = '/' <;> simp [separator]

theorem splitSeparators_of_name {name : List Char} (whole : '/' ∉ name) :
    splitSeparators name = [name] := by
  induction name with
  | nil => rfl
  | cons c name ih =>
    rw [List.mem_cons, not_or] at whole
    rw [splitSeparators, ih whole.2]
    simp [Ne.symm whole.1]

theorem names_append (first second : List Char) :
    names (first ++ '/' :: second) = names first ++ names second := by
  rw [names, splitSeparators_append, List.filter_append, List.map_append, names, names]

theorem names_nil : names [] = [] := rfl

theorem names_separators {text : List Char} (h : ∀ c ∈ text, c = '/') : names text = [] := by
  induction text with
  | nil => rfl
  | cons c text ih =>
    obtain ⟨rfl, others⟩ := List.forall_mem_cons.1 h
    exact (names_append [] text).trans (ih others)

theorem names_of_name {name : String} (h : IsFileName name) : names name.toList = [name] := by
  have filled : name.toList ≠ [] := fun empty => h.nonempty (String.toList_eq_nil_iff.1 empty)
  rw [names, splitSeparators_of_name h.whole]
  simp [filled]

theorem isAbsolute_name {name : String} (h : IsFileName name) : isAbsolute name = false := by
  have whole := h.whole
  unfold isAbsolute
  cases chars : name.toList with
  | nil => rfl
  | cons c rest =>
    rw [chars, List.mem_cons, not_or] at whole
    simp [Ne.symm whole.1]

/-- Below a directory there is one separator, which the directory may already end in. -/
theorem toList_join (directory : String) {name : String} (h : IsFileName name) :
    directory = "" ∧ join directory name = name ∨
      ∃ above, (directory.toList = above ∧ above ≠ [] ∨ directory.toList = above ++ ['/']) ∧
        (join directory name).toList = above ++ '/' :: name.toList := by
  unfold join
  rw [isAbsolute_name h, if_neg Bool.false_ne_true]
  by_cases empty : directory = ""
  · subst empty
    simp
  · right
    have filled : directory.toList ≠ [] := fun none => empty (String.toList_eq_nil_iff.1 none)
    cases ends : endsInSeparator directory with
    | true =>
      obtain ⟨above, split⟩ := List.getLast?_eq_some_iff.1 (eq_of_beq ends)
      refine ⟨above, .inr split, ?_⟩
      simp [split]
    | false =>
      refine ⟨directory.toList, .inl ⟨rfl, filled⟩, ?_⟩
      simp [empty]

theorem isAbsolute_join (directory : String) {name : String} (h : IsFileName name) :
    isAbsolute (join directory name) = isAbsolute directory := by
  rcases toList_join directory h with ⟨rfl, same⟩ | ⟨above, written, joined⟩
  · rw [same, isAbsolute_name h]
    rfl
  · unfold isAbsolute
    rw [joined]
    rcases written with ⟨same, filled⟩ | same
    · obtain ⟨c, rest, rfl⟩ := List.exists_cons_of_ne_nil filled
      rw [same]
      rfl
    · rw [same]
      cases above <;> rfl

theorem names_join (directory : String) {name : String} (h : IsFileName name) :
    names (join directory name).toList = names directory.toList ++ [name] := by
  rcases toList_join directory h with ⟨rfl, same⟩ | ⟨above, written, joined⟩
  · rw [same, names_of_name h]
    rfl
  · have directory_names : names directory.toList = names above := by
      rcases written with ⟨same, _⟩ | same
      · rw [same]
      · rw [same, names_append, names_nil, List.append_nil]
    rw [joined, names_append, names_of_name h, directory_names]

theorem endsInSeparator_join (directory : String) {name : String} (h : IsFileName name) :
    endsInSeparator (join directory name) = false := by
  have filled : name.toList ≠ [] := fun empty => h.nonempty (String.toList_eq_nil_iff.1 empty)
  obtain ⟨first, last, split⟩ := (List.eq_nil_or_concat name.toList).resolve_left filled
  rw [List.concat_eq_append] at split
  have ends : (join directory name).toList.getLast? = some last := by
    rcases toList_join directory h with ⟨_, same⟩ | ⟨above, _, joined⟩
    · rw [same, split, List.getLast?_concat]
    · rw [joined, split, ← List.cons_append, ← List.append_assoc, List.getLast?_concat]
  have other : last ≠ '/' := by
    rintro rfl
    exact h.whole (by simp [split])
  unfold endsInSeparator
  rw [ends]
  simpa using other

theorem parts_join (directory : String) {name : String} (h : IsFileName name) :
    parts (join directory name) = names directory.toList ++ [name] := by
  rw [parts_eq, endsInSeparator_join directory h, names_join directory h]
  rfl

theorem join_ne_empty (directory : String) {name : String} (h : IsFileName name) :
    join directory name ≠ "" := by
  rcases toList_join directory h with ⟨_, same⟩ | ⟨above, _, joined⟩
  · rw [same]
    exact h.nonempty
  · intro empty
    rw [empty] at joined
    simp at joined

/-- Separators at the end of a path only ask for a directory. -/
theorem trimSeparators_cases (path : String) :
    trimSeparators path = path ∧ names path.toList = [] ∨
      ∃ kept last separators, path.toList = kept ++ last :: separators ∧ last ≠ '/' ∧
        (∀ c ∈ separators, c = '/') ∧ (trimSeparators path).toList = kept ++ [last] := by
  have split := List.takeWhile_append_dropWhile (p := (· = '/')) (l := path.toList.reverse)
  have separators : ∀ c ∈ path.toList.reverse.takeWhile (· = '/'), c = '/' := fun c member => by
    simpa using List.all_eq_true.1 List.all_takeWhile c member
  unfold trimSeparators
  cases trimmed : path.toList.reverse.dropWhile (· = '/') with
  | nil =>
    rw [trimmed, List.append_nil] at split
    refine .inl ⟨rfl, names_separators fun c member => separators c ?_⟩
    rw [split]
    exact List.mem_reverse.2 member
  | cons last rest =>
    have other := List.head?_dropWhile_not (p := (· = '/')) path.toList.reverse
    rw [trimmed] at split other
    refine .inr ⟨rest.reverse, last, (path.toList.reverse.takeWhile (· = '/')).reverse, ?_, ?_, ?_, ?_⟩
    · have forward := congrArg List.reverse split
      rw [List.reverse_append, List.reverse_cons, List.reverse_reverse] at forward
      exact forward.symm.trans (List.append_assoc ..)
    · simpa using other
    · exact fun c member => separators c (List.mem_reverse.1 member)
    · simp

theorem parts_trimSeparators (path : String) :
    parts (trimSeparators path) = names path.toList := by
  rcases trimSeparators_cases path with ⟨same, none⟩ | ⟨kept, last, separators, split, other, all, trimmed⟩
  · rw [same, parts_eq, none]
    simp
  · have ends : endsInSeparator (trimSeparators path) = false := by
      unfold endsInSeparator
      rw [trimmed, List.getLast?_concat]
      simpa using other
    have same : names path.toList = names (trimSeparators path).toList := by
      rw [split, trimmed]
      cases separators with
      | nil => rfl
      | cons c separators =>
        obtain ⟨rfl, others⟩ := List.forall_mem_cons.1 all
        have step := names_append (kept ++ [last]) separators
        rw [names_separators others, List.append_nil] at step
        simpa using step
    rw [parts_eq, ends, same]
    rfl

theorem isAbsolute_trimSeparators (path : String) :
    isAbsolute (trimSeparators path) = isAbsolute path := by
  rcases trimSeparators_cases path with ⟨same, _⟩ | ⟨kept, last, separators, split, _, _, trimmed⟩
  · rw [same]
  · unfold isAbsolute
    rw [split, trimmed]
    cases kept <;> rfl

theorem trimSeparators_ne_empty {path : String} (h : path ≠ "") : trimSeparators path ≠ "" := by
  rcases trimSeparators_cases path with ⟨same, _⟩ | ⟨kept, last, separators, _, _, _, trimmed⟩
  · rwa [same]
  · intro empty
    rw [empty] at trimmed
    simp at trimmed

/-- The paths that are left when parts are taken from the end of a path, and the path itself. -/
inductive IsAbove : String → String → Prop where
  | self (path : String) : IsAbove path path
  | parent {above parent path : String} : parent? path = some parent → IsAbove above parent →
      IsAbove above path

end Path

/-- One part of a path further. -/
def advance (location : Location) (part : String) : Location :=
  if part = "." then location
  else if part = ".." then location.dropLast
  else location ++ [part]

namespace FileSystem

/-- Where a path begins. -/
def start (fs : FileSystem) (path : String) : Location :=
  if Path.isAbsolute path then [] else fs.current

/-- Where a path leads to, if there are no links on the way. -/
def place (fs : FileSystem) (path : String) : Location :=
  (Path.parts path).foldl advance (fs.start path)

/-- Neither links nor devices. -/
def IsPlain (fs : FileSystem) : Prop :=
  ∀ location entry, fs.entry? location = some entry →
    entry = .directory ∨ ∃ bytes, entry = .file bytes

theorem isPlain_of_entries {fs : FileSystem}
    (h : ∀ x ∈ fs.entries, x.2 = .directory ∨ ∃ bytes, x.2 = .file bytes) : fs.IsPlain := by
  intro location entry known
  unfold entry? at known
  split at known
  · exact .inl (Option.some.inj known).symm
  · obtain ⟨before, after, same, _⟩ := List.lookup_eq_some_iff.1 known
    exact h (location, entry) (by simp [same])

/-- All that is passed through on the way from a place is a directory. -/
def Passes (fs : FileSystem) : Location → List String → Prop
  | _, [] => True
  | location, part :: rest =>
    fs.entry? location = some .directory ∧ fs.Passes (advance location part) rest

/-- A path that leads through directories. -/
@[irreducible]
def Reaches (fs : FileSystem) (path : String) : Prop :=
  fs.Passes (fs.start path) (Path.parts path)

variable {fs after : FileSystem} {location : Location} {path : String}

theorem passes_append {first second : List String} :
    fs.Passes location (first ++ second) ↔
      fs.Passes location first ∧ fs.Passes (first.foldl advance location) second := by
  induction first generalizing location with
  | nil => simp [Passes]
  | cons part first ih => simp only [List.cons_append, Passes, ih, List.foldl_cons, and_assoc]

theorem Passes.mono {parts : List String} (h : fs.Passes location parts)
    (kept : ∀ l, fs.entry? l = some .directory → after.entry? l = some .directory) :
    after.Passes location parts := by
  induction parts generalizing location with
  | nil => trivial
  | cons part parts ih => exact ⟨kept location h.1, ih h.2⟩

theorem Reaches.mono (h : fs.Reaches path) (same : after.current = fs.current)
    (kept : ∀ l, fs.entry? l = some .directory → after.entry? l = some .directory) :
    after.Reaches path := by
  unfold Reaches start at *
  rw [same]
  exact h.mono kept

theorem entry?_put_self {entry : Entry} (h : location ≠ []) :
    entry? (fs.put location entry) location = some entry := by
  simp [put, entry?, h]

theorem lookup_filter {entries : List (Location × Entry)} {other : Location}
    (h : other ≠ location) :
    (entries.filter (·.1 ≠ location)).lookup other = entries.lookup other := by
  induction entries with
  | nil => rfl
  | cons x entries ih =>
    by_cases same : x.1 = location
    · have apart : (other == x.1) = false := by simpa [same] using h
      rw [List.filter_cons_of_neg (by simp [same]), ih, List.lookup_cons, apart]
    · rw [List.filter_cons_of_pos (by simp [same]), List.lookup_cons, List.lookup_cons, ih]

theorem entry?_put_of_ne {entry : Entry} {other : Location} (h : other ≠ location) :
    entry? (fs.put location entry) other = fs.entry? other := by
  unfold entry? put
  split
  · rfl
  · have apart : (other == location) = false := by simpa using h
    rw [List.lookup_cons, apart]
    exact lookup_filter h

section Walk

variable {follow : Bool} {onLink : Location → List String → Except FileError Target}

/-- How far a step along a path gets in a file system without links. -/
theorem walkParts_cons (plain : fs.IsPlain) {part : String}
    {rest : List String} (here : fs.entry? location = some .directory) :
    fs.walkParts follow onLink location (part :: rest) =
      if part = "." ∨ part = ".." ∨ fs.entry? (location ++ [part]) ≠ none then
        fs.walkParts follow onLink (advance location part) rest
      else if rest = [] then .ok (.missing location part)
      else .error .notFound := by
  rw [walkParts.eq_def]
  simp only [here]
  by_cases dot : part = "."
  · simp [dot, Entry.isDirectory, advance]
  · by_cases up : part = ".."
    · simp [up, Entry.isDirectory, advance]
    · cases next : fs.entry? (location ++ [part]) with
      | none => simp [dot, up, Entry.isDirectory]
      | some entry =>
        rcases plain _ _ next with rfl | ⟨bytes, rfl⟩
        · simp [dot, up, Entry.isDirectory, advance]
        · simp [dot, up, Entry.isDirectory, advance]

theorem walkParts_nil :
    fs.walkParts follow onLink location [] =
      match fs.entry? location with
      | none => .error .notFound
      | some entry => .ok (.found location entry) := by
  unfold walkParts
  cases fs.entry? location <;> rfl

theorem walkParts_blocked {part : String} {rest : List String}
    (here : fs.entry? location ≠ some .directory) :
    ∃ e, fs.walkParts follow onLink location (part :: rest) = .error e := by
  rw [walkParts.eq_def]
  cases known : fs.entry? location with
  | none => exact ⟨_, rfl⟩
  | some entry =>
    cases entry with
    | directory => exact absurd known here
    | file bytes => exact ⟨_, rfl⟩
    | link target => exact ⟨_, rfl⟩
    | sink => exact ⟨_, rfl⟩

theorem locate_eq_walkParts (filled : path ≠ "") :
    ∃ onLink, fs.locate follow path = fs.walkParts follow onLink (fs.start path) (Path.parts path) :=
  ⟨fs.walk follow 39, if_neg filled⟩

section Plain

variable (plain : fs.IsPlain)

include plain

/-- What a path leads to is at the place that its parts name, behind directories only. -/
theorem walkParts_eq_found_iff {parts : List String} {found : Location} {entry : Entry} :
    fs.walkParts follow onLink location parts = .ok (.found found entry) ↔
      fs.Passes location parts ∧ parts.foldl advance location = found ∧
        fs.entry? found = some entry := by
  induction parts generalizing location with
  | nil =>
    rw [walkParts_nil]
    cases known : fs.entry? location with
    | none =>
      constructor
      · intro impossible; cases impossible
      · rintro ⟨_, rfl, there⟩
        exact absurd (known.symm.trans there) (by simp)
    | some other =>
      constructor
      · intro same
        cases same
        exact ⟨trivial, rfl, known⟩
      · rintro ⟨_, rfl, there⟩
        cases known.symm.trans there
        rfl
  | cons part rest ih =>
    by_cases here : fs.entry? location = some .directory
    · rw [walkParts_cons plain here]
      split
      · rw [ih, List.foldl_cons]
        exact and_congr_left' ⟨fun passes => ⟨here, passes⟩, And.right⟩
      · rename_i absent
        simp only [not_or, Classical.not_not] at absent
        obtain ⟨dot, up, none⟩ := absent
        have next : advance location part = location ++ [part] := by simp [advance, dot, up]
        constructor
        · intro impossible
          split at impossible <;> cases impossible
        · rintro ⟨⟨_, passes⟩, rfl, there⟩
          rw [List.foldl_cons, next] at there
          rw [next] at passes
          cases rest with
          | nil => exact absurd (none.symm.trans there) (by simp)
          | cons => exact absurd (none.symm.trans passes.1) (by simp)
    · obtain ⟨e, blocked⟩ := walkParts_blocked here
      rw [blocked]
      exact ⟨nofun, fun h => absurd h.1.1 here⟩

theorem walkParts_missing {parts : List String} {directory : Location}
    {name : String} (h : fs.walkParts follow onLink location parts = .ok (.missing directory name)) :
    fs.Passes location parts ∧ parts.foldl advance location = directory ++ [name] ∧
      fs.entry? (directory ++ [name]) = none := by
  induction parts generalizing location with
  | nil =>
    rw [walkParts_nil] at h
    split at h <;> cases h
  | cons part rest ih =>
    by_cases here : fs.entry? location = some .directory
    · rw [walkParts_cons plain here] at h
      split at h
      · obtain ⟨passes, ends, absent⟩ := ih h
        exact ⟨⟨here, passes⟩, ends, absent⟩
      · rename_i absent
        simp only [not_or, Classical.not_not] at absent
        obtain ⟨dot, up, none⟩ := absent
        split at h
        · rename_i last
          cases h
          subst last
          exact ⟨⟨here, trivial⟩, by simp [advance, dot, up], none⟩
        · cases h
    · obtain ⟨e, blocked⟩ := walkParts_blocked here
      rw [blocked] at h
      cases h

theorem locate_eq_found_iff {found : Location} {entry : Entry} :
    fs.locate follow path = .ok (.found found entry) ↔
      path ≠ "" ∧ fs.Reaches path ∧ fs.place path = found ∧ fs.entry? found = some entry := by
  by_cases filled : path = ""
  · simp [locate, filled]
  · obtain ⟨onLink, same⟩ := locate_eq_walkParts filled
    unfold Reaches
    rw [same, walkParts_eq_found_iff plain]
    exact ⟨fun h => ⟨filled, h⟩, And.right⟩

theorem locate_missing {directory : Location} {name : String}
    (h : fs.locate follow path = .ok (.missing directory name)) :
    fs.Reaches path ∧ fs.place path = directory ++ [name] ∧
      fs.entry? (directory ++ [name]) = none := by
  by_cases filled : path = ""
  · simp [locate, filled] at h
  · obtain ⟨onLink, same⟩ := locate_eq_walkParts filled
    unfold Reaches
    exact walkParts_missing plain (same ▸ h)

/-- A file is written at the place that its path leads to. -/
theorem write_eq_ok {bytes : ByteArray} (h : fs.write path bytes = .ok after) :
    fs.Reaches path ∧ fs.entry? (fs.place path) ≠ some .directory ∧
      after = fs.put (fs.place path) (.file bytes) := by
  unfold write at h
  split at h
  · cases h
  · rename_i directory name missing
    cases h
    obtain ⟨passes, same, absent⟩ := locate_missing plain missing
    rw [same, absent]
    exact ⟨passes, by simp, rfl⟩
  · rename_i found old there
    cases h
    obtain ⟨_, passes, rfl, known⟩ := (locate_eq_found_iff plain).1 there
    rw [known]
    exact ⟨passes, by simp, rfl⟩
  · rename_i found there
    obtain ⟨_, _, _, known⟩ := (locate_eq_found_iff plain).1 there
    rcases plain _ _ known with impossible | ⟨bytes, impossible⟩ <;> cases impossible
  · cases h
  · cases h

/-- There is text to read where a path leads to a file of it. -/
theorem read_eq_ok_iff {text : String} :
    fs.read path = .ok text ↔
      ∃ bytes, path ≠ "" ∧ fs.Reaches path ∧ fs.entry? (fs.place path) = some (.file bytes) ∧
        String.fromUTF8? bytes = some text := by
  unfold read
  constructor
  · intro h
    split at h
    · cases h
    · cases h
    · rename_i found bytes there
      obtain ⟨filled, reached, rfl, known⟩ := (locate_eq_found_iff plain).1 there
      split at h
      · rename_i decoded
        cases h
        exact ⟨bytes, filled, reached, known, decoded⟩
      · cases h
    · rename_i found there
      obtain ⟨_, _, _, known⟩ := (locate_eq_found_iff plain).1 there
      rcases plain _ _ known with impossible | ⟨bytes, impossible⟩ <;> cases impossible
    · cases h
    · cases h
  · rintro ⟨bytes, filled, reached, there, decoded⟩
    simp only [(locate_eq_found_iff plain).2 ⟨filled, reached, rfl, there⟩, decoded]

variable {bytes : ByteArray} (filled : path ≠ "") (reached : fs.Reaches path)
  (there : fs.entry? (fs.place path) = some (.file bytes))

include filled reached there

theorem size_of_file : fs.size path = .ok bytes.size := by
  simp only [size, (locate_eq_found_iff plain).2 ⟨filled, reached, rfl, there⟩]

theorem write_of_file (text : ByteArray) :
    fs.write path text = .ok (fs.put (fs.place path) (.file text)) := by
  simp only [write, (locate_eq_found_iff plain).2 ⟨filled, reached, rfl, there⟩]

end Plain

end Walk

end FileSystem

end HostCall
