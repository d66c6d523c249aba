import HostCall.Proofs.Delivery
import HostCall.Proofs.MarshalIn
import HostCall.Proofs.Operations

/-!
The list of flagged types that is handed on. It has a line for each of them, in order, but for one
case: a type without a name that is flagged alone leaves the list empty, although it is counted.
-/
namespace HostCall

section Lines

variable {names : List String}

theorem intercalate_lines (h : names ≠ []) :
    "\n".intercalate names ++ "\n" = String.join (names.map (· ++ "\n")) := by
  induction names with
  | nil => exact absurd rfl h
  | cons first rest ih =>
    cases rest with
    | nil => simp
    | cons second rest =>
      rw [String.intercalate_cons_cons, List.map_cons, String.join_cons, ← ih (by simp)]
      simp only [String.append_assoc]

theorem intercalate_eq_empty_iff : "\n".intercalate names = "" ↔ names = [] ∨ names = [""] := by
  cases names with
  | nil => simp
  | cons first rest =>
    cases rest with
    | nil => simp
    | cons second rest => simp [String.intercalate_cons_cons, String.append_eq_empty_iff]

theorem count_lines (h : ∀ name ∈ names, '\n' ∉ name.toList) :
    (String.join (names.map (· ++ "\n"))).toList.count '\n' = names.length := by
  induction names with
  | nil => rfl
  | cons first rest ih =>
    obtain ⟨none, others⟩ := List.forall_mem_cons.1 h
    have here : first.toList.count '\n' = 0 := List.count_eq_zero.2 none
    rw [List.map_cons, String.join_cons, String.toList_append, String.toList_append,
      List.count_append, List.count_append, here, ih others, List.length_cons]
    exact (Nat.add_comm ..).trans (by simp)

end Lines

namespace Generator

variable {g : Generator}

theorem marshalInList_of_lines (h : g.flagged.toList ≠ [""]) :
    g.marshalInList = String.join (g.flagged.toList.map (· ++ "\n")) := by
  unfold marshalInList
  by_cases nothing : g.flagged.toList = []
  · rw [nothing]
    rfl
  · have filled : "\n".intercalate g.flagged.toList ≠ "" := by
      rw [ne_eq, intercalate_eq_empty_iff]
      exact fun empty => empty.elim nothing h
    simp only [if_neg filled, intercalate_lines nothing]

theorem marshalInList_eq_empty_iff :
    g.marshalInList = "" ↔ g.flagged.toList = [] ∨ g.flagged.toList = [""] := by
  rw [← intercalate_eq_empty_iff]
  unfold marshalInList
  by_cases empty : "\n".intercalate g.flagged.toList = ""
  · simp [empty]
  · simp [empty, String.append_eq_empty_iff]

/-- The list has a line for every flagged type, as many as are reported, unless all it would say is
the name that is empty. -/
theorem marshalInList_lines (catalog : Catalog) (settings : Settings) (ops : List Operation) :
    let g := (run { catalog, settings } ops).1
    let names := g.flagged.toList
    (names.Pairwise (· < ·) ∧ ∀ type, type ∈ names ↔ type ∈ g.flagged) ∧
    (∀ (r : Generation) (directory : String) (thunks : Thunks), r.generator = g →
      (r.report directory thunks).marshalInTypes = names.length) ∧
    (names ≠ [""] →
      g.marshalInList = String.join (names.map (· ++ "\n")) ∧
      (g.marshalInList = "" ↔ names = []) ∧
      ((∀ name ∈ names, '\n' ∉ name.toList) →
        g.marshalInList.toList.count '\n' = names.length)) ∧
    (names = [""] → g.marshalInList = "") := by
  intro g names
  refine ⟨⟨g.flagged.ascending, fun type => NameSet.mem_toList⟩, ?_, ?_, ?_⟩
  · intro r directory thunks same
    exact congrArg (·.flagged.size) same
  · intro named
    refine ⟨marshalInList_of_lines named, ?_, ?_⟩
    · rw [marshalInList_eq_empty_iff]
      exact or_iff_left named
    · intro plain
      rw [marshalInList_of_lines named, count_lines plain]
  · intro unnamed
    exact marshalInList_eq_empty_iff.2 (.inr unnamed)

end Generator

/-- Takes a structure whose type has no name. -/
def copiesUnnamed : HostFunction :=
  { name := "vkF"
    params := [
      { name := "p", type := "", isPointer := true, guestValue := "ARG1", hostValue := "p" }] }

/-- A flagged type has no line. -/
theorem list_empty_copiesUnnamed :
    let catalog : Catalog := { types := [⟨"", .struct⟩] }
    let g := (Generator.run { catalog } [.emit copiesUnnamed]).1
    g.flagged.toList = [""] ∧ g.marshalInList = "" ∧
      g.marshalInList ≠ String.join (g.flagged.toList.map (· ++ "\n")) := by
  decide

end HostCall
