/-!
Finite sets of names, kept as strictly ascending lists in code-point order. A set has one
representation, so two sets with the same members are equal, and its list is already in the
order in which names are printed.
-/
namespace HostCall

/-- Puts a name at its place in an ascending list; a name already there is not repeated. -/
def insertAscending (name : String) : List String → List String
  | [] => [name]
  | head :: rest =>
    if name < head then name :: head :: rest
    else if head < name then head :: insertAscending name rest
    else head :: rest

theorem mem_insertAscending {a name : String} {names : List String} :
    a ∈ insertAscending name names ↔ a = name ∨ a ∈ names := by
  induction names with
  | nil => simp [insertAscending]
  | cons head rest ih =>
    unfold insertAscending
    split
    · simp
    · split
      · simp only [List.mem_cons, ih]
        exact or_left_comm
      · have h : name = head := String.le_antisymm (String.not_lt.1 ‹_›) (String.not_lt.1 ‹_›)
        simp [h]

theorem pairwise_insertAscending {name : String} {names : List String}
    (h : names.Pairwise (· < ·)) : (insertAscending name names).Pairwise (· < ·) := by
  induction names with
  | nil => simp [insertAscending]
  | cons head rest ih =>
    obtain ⟨below, tail⟩ := List.pairwise_cons.1 h
    unfold insertAscending
    split
    · refine List.pairwise_cons.2 ⟨fun b hb => ?_, h⟩
      rcases List.mem_cons.1 hb with rfl | hb
      · assumption
      · exact String.lt_trans ‹_› (below b hb)
    · split
      · refine List.pairwise_cons.2 ⟨fun b hb => ?_, ih tail⟩
        rcases mem_insertAscending.1 hb with rfl | hb
        · assumption
        · exact below b hb
      · exact h

/-- Ascending lists with the same members are the same list. -/
theorem eq_of_mem_iff_of_ascending {xs ys : List String} (hx : xs.Pairwise (· < ·))
    (hy : ys.Pairwise (· < ·)) (h : ∀ a, a ∈ xs ↔ a ∈ ys) : xs = ys := by
  induction xs generalizing ys with
  | nil =>
    cases ys with
    | nil => rfl
    | cons y _ => exact absurd ((h y).2 (List.mem_cons_self ..)) (by simp)
  | cons x xs ih =>
    cases ys with
    | nil => exact absurd ((h x).1 (List.mem_cons_self ..)) (by simp)
    | cons y ys =>
      obtain ⟨hx1, hx2⟩ := List.pairwise_cons.1 hx
      obtain ⟨hy1, hy2⟩ := List.pairwise_cons.1 hy
      have hxy : x = y := by
        rcases List.mem_cons.1 ((h x).1 (List.mem_cons_self ..)) with e | hm
        · exact e
        · rcases List.mem_cons.1 ((h y).2 (List.mem_cons_self ..)) with e | hm'
          · exact e.symm
          · exact absurd (hx1 y hm') (String.lt_asymm (hy1 x hm))
      subst hxy
      refine congrArg (x :: ·) (ih hx2 hy2 fun a => ?_)
      constructor
      · intro ha
        rcases List.mem_cons.1 ((h a).1 (List.mem_cons_of_mem _ ha)) with e | hm
        · exact absurd (e ▸ hx1 a ha) (String.lt_irrefl _)
        · exact hm
      · intro ha
        rcases List.mem_cons.1 ((h a).2 (List.mem_cons_of_mem _ ha)) with e | hm
        · exact absurd (e ▸ hy1 a ha) (String.lt_irrefl _)
        · exact hm

/-- A finite set of names. -/
structure NameSet where
  /-- The members, ascending. -/
  toList : List String
  ascending : toList.Pairwise (· < ·)

namespace NameSet

instance : Membership String NameSet := ⟨fun s name => name ∈ s.toList⟩

instance (name : String) (s : NameSet) : Decidable (name ∈ s) :=
  inferInstanceAs (Decidable (name ∈ s.toList))

theorem mem_toList {name : String} {s : NameSet} : name ∈ s.toList ↔ name ∈ s := Iff.rfl

@[ext] theorem ext {s t : NameSet} (h : ∀ name, name ∈ s ↔ name ∈ t) : s = t := by
  cases s with
  | mk xs hx =>
    cases t with
    | mk ys hy =>
      have e : xs = ys := eq_of_mem_iff_of_ascending hx hy h
      subst e
      rfl

def empty : NameSet := ⟨[], .nil⟩

instance : EmptyCollection NameSet := ⟨empty⟩

@[simp] theorem not_mem_empty (name : String) : name ∉ (∅ : NameSet) := by
  simp [← mem_toList, EmptyCollection.emptyCollection, empty]

def insert (s : NameSet) (name : String) : NameSet :=
  ⟨insertAscending name s.toList, pairwise_insertAscending s.ascending⟩

@[simp] theorem mem_insert {a name : String} {s : NameSet} :
    a ∈ s.insert name ↔ a = name ∨ a ∈ s := mem_insertAscending

def insertAll (s : NameSet) (names : List String) : NameSet :=
  names.foldl insert s

@[simp] theorem mem_insertAll {a : String} {names : List String} {s : NameSet} :
    a ∈ s.insertAll names ↔ a ∈ names ∨ a ∈ s := by
  unfold insertAll
  induction names generalizing s with
  | nil => simp
  | cons head rest ih => simp [ih, or_assoc, or_left_comm]

def ofList (names : List String) : NameSet := (∅ : NameSet).insertAll names

@[simp] theorem mem_ofList {a : String} {names : List String} : a ∈ ofList names ↔ a ∈ names := by
  simp [ofList]

def size (s : NameSet) : Nat := s.toList.length

end NameSet

end HostCall
