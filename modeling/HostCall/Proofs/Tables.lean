import HostCall.Toml.Document

/-!
What the sections of a TOML document add up to. A table is taken as what it has under each key; then
sections of different first keys do not touch one another, so that they may come in any order and
between one another, and a table with a header and the elements of an array in it may be mixed.
-/
namespace HostCall.Toml

namespace Entries

variable {entries before after : Entries} {key k : String} {value : Item}

/-- Every key once, with its value. -/
structure Represents (entries : Entries) (values : String → Option Item) : Prop where
  distinct : (entries.map (·.1)).Nodup
  get : ∀ k, entries.get? k = values k

/-- One key has another value, or has one now. -/
structure Revises (before after : Entries) (key : String) (value : Item) : Prop where
  get : ∀ k, after.get? k = if k = key then some value else before.get? k
  distinct : (before.map (·.1)).Nodup → (after.map (·.1)).Nodup

theorem get?_cons (x : String × Item) (entries : Entries) (k : String) :
    get? (x :: entries) k = if k = x.1 then some x.2 else entries.get? k := by
  unfold get?
  rw [List.lookup_cons]
  by_cases same : k = x.1
  · simp [same]
  · rw [if_neg same, beq_eq_false_iff_ne.2 same]

theorem get?_eq_none_iff : entries.get? k = none ↔ k ∉ entries.map (·.1) := by
  induction entries with
  | nil => simp [get?]
  | cons x entries ih =>
    rw [get?_cons]
    by_cases same : k = x.1
    · simp [same]
    · simp only [same, if_false, ih, List.map_cons, List.mem_cons, false_or]

theorem get?_of_mem (distinct : (entries.map (·.1)).Nodup) {x : String × Item}
    (member : x ∈ entries) : entries.get? x.1 = some x.2 := by
  induction entries with
  | nil => cases member
  | cons y entries ih =>
    obtain ⟨apart, rest⟩ := List.nodup_cons.1 distinct
    rw [get?_cons]
    rcases List.mem_cons.1 member with rfl | later
    · simp
    · have differs : x.1 ≠ y.1 := fun same => apart (List.mem_map.2 ⟨x, later, same⟩)
      rw [if_neg differs]
      exact ih rest later

theorem mem_of_get? (h : entries.get? k = some value) : (k, value) ∈ entries := by
  induction entries with
  | nil => cases h
  | cons x entries ih =>
    rw [get?_cons] at h
    split at h
    · rename_i same
      cases h
      exact same ▸ List.mem_cons_self ..
    · exact List.mem_cons_of_mem x (ih h)

theorem get?_append (first second : Entries) (k : String) :
    get? (first ++ second) k = (first.get? k).or (second.get? k) := by
  induction first with
  | nil => simp [get?]
  | cons x first ih =>
    rw [List.cons_append, get?_cons, get?_cons, ih]
    split <;> rfl

theorem get?_erase (entries : Entries) (key k : String) :
    (entries.erase key).get? k = if k = key then none else entries.get? k := by
  induction entries with
  | nil => simp [erase, get?]
  | cons x entries ih =>
    unfold erase at ih ⊢
    by_cases here : x.1 = key
    · rw [List.filter_cons_of_neg (by simp [here]), ih, get?_cons, here]
      split <;> rfl
    · rw [List.filter_cons_of_pos (by simp [here]), get?_cons, get?_cons, ih]
      by_cases same : k = x.1
      · simp [same, here]
      · simp [same]

theorem represents_nil : Represents [] fun _ => none := ⟨List.nodup_nil, fun _ => rfl⟩

theorem Represents.mem_iff {values : String → Option Item} (h : Represents entries values)
    {x : String × Item} : x ∈ entries ↔ values x.1 = some x.2 := by
  rw [← h.get]
  exact ⟨get?_of_mem h.distinct, mem_of_get?⟩

theorem Represents.eq_singleton
    (h : entries.Represents fun k => if k = key then some value else none) :
    entries = [(key, value)] := by
  have each : ∀ x ∈ entries, x = (key, value) := by
    intro x member
    have listed := h.mem_iff.1 member
    split at listed
    · rename_i same
      cases listed
      exact Prod.ext same rfl
    · cases listed
  cases entries with
  | nil =>
    have absent := h.get key
    rw [if_pos rfl] at absent
    cases absent
  | cons x others =>
    obtain ⟨apart, _⟩ := List.nodup_cons.1 h.distinct
    have first := each x (List.mem_cons_self ..)
    cases others with
    | nil => rw [first]
    | cons y others =>
      have second := each y (by simp)
      rw [first, second] at apart
      simp at apart

/-- The entries of these keys that have values, in the order of the keys. -/
def listed (keys : List String) (values : String → Option Item) : Entries :=
  keys.filterMap fun k => (values k).map fun value => (k, value)

theorem listed_cons (key : String) (keys : List String) (values : String → Option Item) :
    listed (key :: keys) values =
      (values key).elim (listed keys values) fun value => (key, value) :: listed keys values := by
  unfold listed
  rw [List.filterMap_cons]
  cases values key <;> rfl

theorem value_of_mem_listed {keys : List String} {values : String → Option Item}
    {x : String × Item} (member : x ∈ listed keys values) : values x.1 = some x.2 := by
  obtain ⟨k, _, found⟩ := List.mem_filterMap.1 member
  obtain ⟨value, stated, rfl⟩ := Option.map_eq_some_iff.1 found
  exact stated

theorem keys_listed (keys : List String) (values : String → Option Item) :
    (listed keys values).map (·.1) = keys.filter fun k => (values k).isSome := by
  induction keys with
  | nil => rfl
  | cons key keys ih =>
    rw [listed_cons, List.filter_cons]
    cases values key with
    | none => exact ih
    | some value => simpa using ih

theorem get?_listed (keys : List String) (values : String → Option Item) (k : String) :
    (listed keys values).get? k = if k ∈ keys then values k else none := by
  induction keys with
  | nil => rfl
  | cons key keys ih =>
    rw [listed_cons]
    by_cases same : k = key
    · subst same
      cases value : values k with
      | none => simp [ih, value]
      | some item => simp [get?_cons]
    · cases values key with
      | none => simp [ih, same]
      | some item => simp [get?_cons, ih, same]

theorem represents_listed {keys : List String} {values : String → Option Item}
    (distinct : keys.Nodup) (all : ∀ k, k ∉ keys → values k = none) :
    (listed keys values).Represents values := by
  refine ⟨?_, fun k => ?_⟩
  · rw [keys_listed]
    exact distinct.filter _
  · rw [get?_listed]
    split
    · rfl
    · rename_i other
      exact (all k other).symm

theorem change_revises {f : Option Item → Option Item} (h : f (entries.get? key) = some value) :
    ∃ after, change key f entries = some after ∧ Revises entries after key value := by
  induction entries with
  | nil =>
    have new : f none = some value := h
    refine ⟨[(key, value)], by simp [change, new], fun k => ?_, fun _ => by simp⟩
    rw [get?_cons]
  | cons x entries ih =>
    rw [get?_cons] at h
    by_cases here : key = x.1
    · subst here
      rw [if_pos rfl] at h
      refine ⟨(x.1, value) :: entries, by simp [change, h], fun k => ?_, id⟩
      simp only [get?_cons]
      split <;> rfl
    · rw [if_neg here] at h
      obtain ⟨rest, changed, revises⟩ := ih h
      refine ⟨x :: rest, by simp [change, Ne.symm here, changed], fun k => ?_, fun distinct => ?_⟩
      · rw [get?_cons, get?_cons, revises.get]
        by_cases same : k = x.1
        · simp [same, Ne.symm here]
        · simp [same]
      · obtain ⟨apart, others⟩ := List.nodup_cons.1 distinct
        refine List.nodup_cons.2 ⟨?_, revises.distinct others⟩
        rw [← get?_eq_none_iff, revises.get, if_neg (Ne.symm here)]
        exact get?_eq_none_iff.2 apart

/-- The assignments of a table that has no dotted keys. -/
def flat (pairs : Entries) : List (List String × Item) :=
  pairs.map fun (key, value) => ([key], value)

theorem change_absent {f : Option Item → Option Item} (absent : entries.get? key = none)
    (h : f none = some value) : change key f entries = some (entries ++ [(key, value)]) := by
  induction entries with
  | nil => simp [change, h]
  | cons x entries ih =>
    rw [get?_cons] at absent
    split at absent
    · cases absent
    · rename_i apart
      simp [change, Ne.symm apart, ih absent]

theorem assignAll_flat {pairs : Entries} (distinct : (pairs.map (·.1)).Nodup)
    (fresh : ∀ x ∈ pairs, entries.get? x.1 = none) :
    assignAll (flat pairs) entries = some (entries ++ pairs) := by
  induction pairs generalizing entries with
  | nil => simp [assignAll, flat]
  | cons x pairs ih =>
    obtain ⟨apart, others⟩ := List.nodup_cons.1 distinct
    have first : assign x.2 [x.1] entries = some (entries ++ [x]) :=
      change_absent (fresh x (List.mem_cons_self ..)) rfl
    have rest : assignAll (flat pairs) (entries ++ [x]) = some (entries ++ [x] ++ pairs) :=
        ih others fun y member => by
      have differs : y.1 ≠ x.1 := fun same => apart (List.mem_map.2 ⟨y, member, same⟩)
      rw [get?_append, fresh y (List.mem_cons_of_mem x member), get?_cons, if_neg differs]
      rfl
    rw [List.append_assoc, List.singleton_append] at rest
    unfold assignAll flat at rest ⊢
    simp only [List.map_cons, List.foldlM_cons, first]
    exact rest

theorem addTable_revises {inner filled : Entries} {assignments : List (List String × Item)}
    (open_ : entries.get? key = none ∧ inner = [] ∨
      entries.get? key = some (.table .implied inner))
    (assigned : assignAll assignments inner = some filled) :
    ∃ after, addTable key assignments entries = some after ∧
      Revises entries after key (.table .header filled) := by
  refine ⟨entries.erase key ++ [(key, .table .header filled)], ?_, fun k => ?_, fun distinct => ?_⟩
  · unfold addTable
    rcases open_ with ⟨absent, rfl⟩ | implied
    · rw [absent]
      simp [assigned]
    · rw [implied]
      simp [assigned]
  · rw [get?_append, get?_erase, get?_cons]
    split
    · rfl
    · simp [get?]
  · rw [List.map_append, List.nodup_append]
    refine ⟨distinct.sublist (List.filter_sublist.map _), by simp, ?_⟩
    rintro a member b listed rfl
    obtain rfl : a = key := by simpa using listed
    exact get?_eq_none_iff.1 (by rw [get?_erase, if_pos rfl]) member

end Entries

namespace Section

open Entries

variable {s : Section} {ss : List Section} {entries : Entries} {key : String} {value : Item}

/-- What a section makes of the value that its first key had. -/
def revise (s : Section) (old : Option Item) : Option Item :=
  match s.path with
  | [] => none
  | [_] =>
    if s.isElement then
      (assignAll s.assignments []).bind fun filled =>
        match old with
        | none => some (.tables [filled])
        | some (.tables elements) => some (.tables (elements ++ [filled]))
        | some _ => none
    else
      match old with
      | none => (assignAll s.assignments []).map (.table .header)
      | some (.table .implied inner) => (assignAll s.assignments inner).map (.table .header)
      | some _ => none
  | _ :: key :: rest =>
    let inside : Section := { s with path := key :: rest }
    match old with
    | none => (inside.addTo []).map (.table .implied)
    | some (.table .inline _) => none
    | some (.table origin inner) => (inside.addTo inner).map (.table origin)
    | some (.tables elements) => (changeLast inside.addTo elements).map .tables
    | some _ => none

/-- The change that a section makes in the table that its path leads to. -/
def addLast (s : Section) (key : String) : Entries → Option Entries :=
  if s.isElement then addElement key s.assignments else addTable key s.assignments

theorem addTo_eq (path : s.path.getLast? = some key) (entries : Entries) :
    s.addTo entries = descend (s.addLast key) s.path.dropLast entries := by
  simp only [addTo, path]
  rfl

theorem addTo_revises_last (path : s.path = [key]) (h : s.revise (entries.get? key) = some value) :
    ∃ after, s.addTo entries = some after ∧ Revises entries after key value := by
  have last : s.path.getLast? = some key := by rw [path]; rfl
  rw [addTo_eq last, path]
  simp only [revise, path] at h
  simp only [List.dropLast_singleton, descend, addLast]
  cases element : s.isElement with
  | true =>
    simp only [element, if_true] at h ⊢
    obtain ⟨filled, assigned, changed⟩ := Option.bind_eq_some_iff.1 h
    simp only [addElement, assigned, Option.bind_eq_bind, Option.bind_some]
    exact change_revises changed
  | false =>
    simp only [element, Bool.false_eq_true, if_false] at h ⊢
    split at h
    · rename_i absent
      obtain ⟨filled, assigned, rfl⟩ := Option.map_eq_some_iff.1 h
      exact addTable_revises (.inl ⟨absent, rfl⟩) assigned
    · rename_i inner implied
      obtain ⟨filled, assigned, rfl⟩ := Option.map_eq_some_iff.1 h
      exact addTable_revises (.inr implied) assigned
    · cases h

theorem addTo_revises {rest : List String} (path : s.path = key :: rest)
    (h : s.revise (entries.get? key) = some value) :
    ∃ after, s.addTo entries = some after ∧ Revises entries after key value := by
  cases rest with
  | nil => exact addTo_revises_last path h
  | cons next rest =>
    obtain ⟨last, ends⟩ : ∃ last, (next :: rest).getLast? = some last :=
      ⟨_, List.getLast?_eq_some_getLast (by simp)⟩
    let inside : Section := { s with path := next :: rest }
    have inner (e : Entries) :
        inside.addTo e = descend (s.addLast last) (next :: rest).dropLast e :=
      addTo_eq ends e
    have outer : s.path.getLast? = some last := by
      rw [path, List.getLast?_cons_cons]
      exact ends
    rw [addTo_eq outer, path, List.dropLast_cons_cons, descend]
    refine change_revises ?_
    simp only [revise, path] at h
    rw [← h]
    cases entries.get? key with
    | none => rw [← inner]
    | some item =>
      cases item with
      | table origin e =>
        cases origin <;> simp only [← inner] <;> rfl
      | tables elements =>
        have same : descend (s.addLast last) (next :: rest).dropLast = inside.addTo :=
          funext fun e => (inner e).symm
        rw [same]
      | string | integer | real | boolean | datetime | array => rfl

/-- What sections make, one after another, of the value that their first key had. -/
def reviseAll (ss : List Section) (old : Option Item) : Option (Option Item) :=
  ss.foldlM (fun old s => (s.revise old).map some) old

def under (key : String) (ss : List Section) : List Section :=
  ss.filter (·.path.head? == some key)

theorem under_cons_self {rest : List String} (path : s.path = key :: rest) :
    under key (s :: ss) = s :: under key ss := by
  simp [under, path]

theorem under_cons_of_ne {k : String} {rest : List String} (path : s.path = key :: rest)
    (other : k ≠ key) : under k (s :: ss) = under k ss := by
  simp [under, path, Ne.symm other]

def addAll (ss : List Section) (entries : Entries) : Option Entries :=
  ss.foldlM (fun entries s => s.addTo entries) entries

/-- Sections whose first keys differ do not touch one another. -/
theorem addAll_represents {values : String → Option Item} (named : ∀ s ∈ ss, s.path ≠ [])
    (distinct : (entries.map (·.1)).Nodup)
    (h : ∀ k, reviseAll (under k ss) (entries.get? k) = some (values k)) :
    ∃ after, addAll ss entries = some after ∧ after.Represents values := by
  induction ss generalizing entries with
  | nil => exact ⟨entries, rfl, distinct, fun k => Option.some.inj (h k)⟩
  | cons s ss ih =>
    obtain ⟨first, others⟩ := List.forall_mem_cons.1 named
    obtain ⟨key, rest, path⟩ := List.exists_cons_of_ne_nil first
    have own := h key
    rw [under_cons_self path, reviseAll, List.foldlM_cons] at own
    obtain ⟨_, step, later⟩ := Option.bind_eq_some_iff.1 own
    obtain ⟨value, revised, rfl⟩ := Option.map_eq_some_iff.1 step
    obtain ⟨middle, added, revises⟩ := addTo_revises path revised
    obtain ⟨after, result, represents⟩ := ih others (revises.distinct distinct) fun k => by
      rw [revises.get]
      split
      · rename_i same
        exact same ▸ later
      · rename_i other
        rw [← under_cons_of_ne path other]
        exact h k
    refine ⟨after, ?_, represents⟩
    rw [addAll, List.foldlM_cons, added]
    exact result

/-- A section of a table that is under a key. -/
def within (key : String) (s : Section) : Section := { s with path := key :: s.path }

theorem revise_within (named : s.path ≠ []) {origin : Origin} (here : origin ≠ .inline)
    (inner : Entries) :
    (s.within key).revise (some (.table origin inner)) =
      (s.addTo inner).map (.table origin) := by
  obtain ⟨next, rest, path⟩ := List.exists_cons_of_ne_nil named
  have same : { s.within key with path := next :: rest } = s := by
    rw [← path]
    rfl
  simp only [revise, within, path]
  simp only [within] at same
  rw [same]

/-- A table that is not there yet is made as an empty one. -/
theorem revise_absent (s : Section)
    (known : s.isElement = false ∨ ∃ key t, s = within key t ∧ t.path ≠ []) :
    s.revise none = s.revise (some (.table .implied [])) := by
  rcases known with table | ⟨key, t, rfl, named⟩
  · unfold revise
    split
    · rfl
    · rw [table]
      rfl
    · rfl
  · obtain ⟨next, rest, path⟩ := List.exists_cons_of_ne_nil named
    simp only [revise, within, path]

theorem reviseAll_within (key : String) (named : ∀ s ∈ ss, s.path ≠ []) {origin : Origin}
    (here : origin ≠ .inline) (inner : Entries) :
    reviseAll (ss.map (within key)) (some (.table origin inner)) =
      (addAll ss inner).map fun inner => some (.table origin inner) := by
  induction ss generalizing inner with
  | nil => rfl
  | cons s ss ih =>
    obtain ⟨first, others⟩ := List.forall_mem_cons.1 named
    rw [List.map_cons, reviseAll, List.foldlM_cons, revise_within first here, addAll,
      List.foldlM_cons]
    cases s.addTo inner with
    | none => rfl
    | some inner => exact ih others inner

theorem reviseAll_within_absent (filled : ss ≠ []) (named : ∀ s ∈ ss, s.path ≠ []) :
    reviseAll (ss.map (within key)) none =
      (addAll ss []).map fun inner => some (.table .implied inner) := by
  rw [← reviseAll_within key named (by decide)]
  cases ss with
  | nil => exact absurd rfl filled
  | cons s ss =>
    have first := (List.forall_mem_cons.1 named).1
    simp only [reviseAll, List.map_cons, List.foldlM_cons,
      revise_absent (s.within key) (.inr ⟨key, s, rfl, first⟩)]

/-- The section of a table with a header. -/
def table (path : List String) (pairs : Entries) : Section := ⟨false, path, flat pairs⟩

/-- The section of one table of an array. -/
def element (path : List String) (pairs : Entries) : Section := ⟨true, path, flat pairs⟩

/-- A table with the elements of an array in it, and in any place among them its header, if it has
one. -/
inductive Mixes (key name : String) : Option Entries → List Entries → List Section → Prop
  | nil : Mixes key name none [] []
  | element {header : Option Entries} {elements : List Entries} {ss : List Section}
      {pairs : Entries} (distinct : (pairs.map (·.1)).Nodup) (rest : Mixes key name header elements ss) :
      Mixes key name header (pairs :: elements) (element [key, name] pairs :: ss)
  | header {elements : List Entries} {ss : List Section} {pairs : Entries}
      (distinct : (pairs.map (·.1)).Nodup) (rest : Mixes key name none elements ss) :
      Mixes key name (some pairs) elements (table [key] pairs :: ss)

/-- An array of tables, if there are any. -/
def tables? : List Entries → Option Item
  | [] => none
  | elements => some (.tables elements)

theorem tables?_concat (elements : List Entries) (pairs : Entries) :
    tables? (elements ++ [pairs]) = some (.tables (elements ++ [pairs])) := by
  cases elements <;> rfl

/-- A table as it is while its sections are added: with its origin and what it has under its keys,
where the tables of the array stand apart from what the header has. -/
structure IsMixed (name : String) (header : Option Entries) (elements : List Entries)
    (value : Option Item) (inner : Entries) : Prop where
  table : value.getD (.table .implied []) =
    .table (if header.isSome then .header else .implied) inner
  represents : inner.Represents fun k =>
    if k = name then (tables? elements).or (header.bind (·.get? k)) else header.bind (·.get? k)

theorem IsMixed.start (name : String) : IsMixed name none [] none [] := ⟨rfl, by
  refine ⟨List.nodup_nil, fun k => ?_⟩
  split <;> rfl⟩

theorem revise_getD (s : Section)
    (known : s.isElement = false ∨ ∃ key t, s = within key t ∧ t.path ≠ []) (old : Option Item) :
    s.revise old = s.revise (some (old.getD (.table .implied []))) := by
  cases old with
  | none => exact revise_absent s known
  | some item => rfl

theorem IsMixed.addElement {name : String} {header : Option Entries} {elements : List Entries}
    {old : Option Item} {inner pairs : Entries} (h : IsMixed name header elements old inner)
    (distinct : (pairs.map (·.1)).Nodup) (free : header.bind (·.get? name) = none) (key : String) :
    ∃ value after, (element [key, name] pairs).revise old = some value ∧
      IsMixed name header (elements ++ [pairs]) (some value) after := by
  have known : inner.get? name = tables? elements := by
    rw [h.represents.get, if_pos rfl, free, Option.or_none]
  have filled : assignAll (flat pairs) [] = some pairs :=
    assignAll_flat distinct fun _ _ => rfl
  have revised : (element [name] pairs).revise (inner.get? name) =
      some (.tables (elements ++ [pairs])) := by
    rw [known]
    simp only [revise, element, filled, Option.bind_some, if_true]
    cases elements <;> rfl
  obtain ⟨after, added, revises⟩ := addTo_revises_last rfl revised
  have nested : element [key, name] pairs = within key (element [name] pairs) := rfl
  refine ⟨_, after, ?_, rfl, revises.distinct h.represents.distinct, fun k => ?_⟩
  · rw [nested, revise_getD _ (.inr ⟨key, _, rfl, by simp [element]⟩), h.table,
      revise_within (by simp [element]) (by split <;> decide), added]
    rfl
  · rw [revises.get, h.represents.get, tables?_concat]
    split <;> rfl

theorem IsMixed.addHeader {name : String} {elements : List Entries}
    {old : Option Item} {inner pairs : Entries} (h : IsMixed name none elements old inner)
    (distinct : (pairs.map (·.1)).Nodup) (free : elements = [] ∨ pairs.get? name = none)
    (key : String) :
    ∃ value after, (Section.table [key] pairs).revise old = some value ∧
      IsMixed name (some pairs) elements (some value) after := by
  have inside (k : String) : inner.get? k = if k = name then tables? elements else none := by
    rw [h.represents.get]
    split <;> simp
  have fresh : ∀ x ∈ pairs, inner.get? x.1 = none := by
    intro x member
    rw [inside]
    split
    · rename_i same
      rcases free with rfl | free
      · rfl
      · rw [← same, get?_of_mem distinct member] at free
        cases free
    · rfl
  have filled := assignAll_flat distinct fresh
  refine ⟨.table .header (inner ++ pairs), inner ++ pairs, ?_, rfl, ?_, fun k => ?_⟩
  · rw [revise_getD _ (.inl rfl), h.table]
    simp [revise, Section.table, filled]
  · rw [List.map_append, List.nodup_append]
    refine ⟨h.represents.distinct, distinct, ?_⟩
    rintro k old_key _ new_key rfl
    obtain ⟨x, member, rfl⟩ := List.mem_map.1 new_key
    exact get?_eq_none_iff.1 (fresh x member) old_key
  · rw [get?_append, inside]
    split <;> simp

theorem reviseAll_cons {old : Option Item} (h : s.revise old = some value) :
    reviseAll (s :: ss) old = reviseAll ss (some value) := by
  rw [reviseAll, List.foldlM_cons, h]
  rfl

/-- Wherever the header stands among the elements, the table has its keys and all the elements. -/
theorem Mixes.reviseAll {key name : String} {header seen : Option Entries}
    {elements before : List Entries} {ss : List Section} {old : Option Item} {inner : Entries}
    (h : Mixes key name header elements ss) (start : IsMixed name seen before old inner)
    (once : header = none ∨ seen = none)
    (free : before ++ elements = [] ∨ (header.or seen).bind (·.get? name) = none) :
    ∃ new after, reviseAll ss old = some new ∧
      IsMixed name (header.or seen) (before ++ elements) new after := by
  -- `seen` and `before` are what the sections before these have brought
  induction h generalizing seen before old inner with
  | nil => exact ⟨old, inner, rfl, by simpa using start⟩
  | @element header elements ss pairs distinct _ ih =>
    have apart : seen.bind (·.get? name) = none := by
      rcases once with rfl | rfl
      · simpa using free
      · rfl
    obtain ⟨value, middle, revised, next⟩ := start.addElement distinct apart key
    obtain ⟨new, after, result, mixed⟩ := ih next once (by simpa using free)
    rw [List.append_assoc, List.singleton_append] at mixed
    exact ⟨new, after, (reviseAll_cons revised).trans result, mixed⟩
  | @header elements ss pairs distinct rest ih =>
    obtain rfl : seen = none := once.resolve_left nofun
    have apart : before = [] ∨ pairs.get? name = none :=
      free.imp (fun none => (List.append_eq_nil_iff.1 none).1) id
    obtain ⟨value, middle, revised, next⟩ := start.addHeader distinct apart key
    obtain ⟨new, after, result, mixed⟩ := ih next (.inl rfl) free
    exact ⟨new, after, (reviseAll_cons revised).trans result, mixed⟩

theorem reviseAll_table {key : String} {pairs : Entries} (distinct : (pairs.map (·.1)).Nodup) :
    reviseAll [table [key] pairs] none = some (some (.table .header pairs)) := by
  have filled : assignAll (flat pairs) [] = some pairs := assignAll_flat distinct fun _ _ => rfl
  exact reviseAll_cons (by simp [revise, table, filled])

/-- The sections of a table that is the only one. -/
theorem addAll_within (filled : ss ≠ []) (named : ∀ s ∈ ss, s.path ≠ [])
    (added : addAll ss [] = some entries) :
    addAll (ss.map (within key)) [] = some [(key, .table .implied entries)] := by
  have named_within : ∀ s ∈ ss.map (within key), s.path ≠ [] := by
    simp [within]
  have revised (k : String) : reviseAll (under k (ss.map (within key))) (Entries.get? [] k) =
      some (if k = key then some (.table .implied entries) else none) := by
    by_cases same : k = key
    · subst same
      have all : under k (ss.map (within k)) = ss.map (within k) := by
        refine List.filter_eq_self.2 fun s member => ?_
        obtain ⟨inner, _, rfl⟩ := List.mem_map.1 member
        simp [within]
      rw [all, if_pos rfl]
      exact (reviseAll_within_absent filled named).trans (by rw [added]; rfl)
    · have nothing : under k (ss.map (within key)) = [] := by
        refine List.filter_eq_nil_iff.2 fun s member => ?_
        obtain ⟨inner, _, rfl⟩ := List.mem_map.1 member
        simpa [within] using Ne.symm same
      rw [nothing, if_neg same]
      rfl
  obtain ⟨after, result, represents⟩ :=
    addAll_represents named_within represents_nil.distinct revised
  rw [result, represents.eq_singleton]

def lines (s : Section) : List Line :=
  (if s.isElement then Line.element s.path else Line.header s.path) ::
    s.assignments.map fun (path, value) => .assignment path value

theorem sections_lines (ss : List Section) : sections (ss.flatMap lines) = ([], ss) := by
  induction ss with
  | nil => rfl
  | cons s ss ih =>
    have tail (assignments : List (List String × Item)) :
        sections ((assignments.map fun (path, value) => Line.assignment path value) ++
          ss.flatMap lines) = (assignments, ss) := by
      induction assignments with
      | nil => exact ih
      | cons x assignments more => simp only [List.map_cons, List.cons_append, sections, more]
    obtain ⟨isElement, path, assignments⟩ := s
    rw [List.flatMap_cons, lines, List.cons_append]
    cases isElement <;> simp [sections, tail]

theorem build_lines (ss : List Section) : build (ss.flatMap lines) = addAll ss [] := by
  unfold build
  rw [sections_lines]
  rfl

end Section

end HostCall.Toml
