import HostCall.Pass
import Mathlib.Data.List.Nodup

/-!
The order in which a pass takes its functions: by name, and in the order given where names are the
same. There is exactly one such order.
-/
namespace HostCall

/-- Functions in ascending code-point order of their names, those of one name in the order given. -/
structure SortedByName (functions sorted : List HostFunction) : Prop where
  perm : sorted.Perm functions
  ascending : sorted.Pairwise fun f h => f.name ≤ h.name
  stable : ∀ name, sorted.filter (·.name == name) = functions.filter (·.name == name)

theorem sortByName_sorted (functions : List HostFunction) :
    SortedByName functions (sortByName functions) := by
  have trans : ∀ f h k : HostFunction, decide (f.name ≤ h.name) = true →
      decide (h.name ≤ k.name) = true → decide (f.name ≤ k.name) = true := by
    intro f h k fh hk
    exact decide_eq_true (String.le_trans (of_decide_eq_true fh) (of_decide_eq_true hk))
  have total : ∀ f h : HostFunction,
      (decide (f.name ≤ h.name) || decide (h.name ≤ f.name)) = true := by
    intro f h
    simpa using String.le_total f.name h.name
  have perm := List.mergeSort_perm functions fun f h => decide (f.name ≤ h.name)
  refine ⟨perm, ?_, ?_⟩
  · exact (List.pairwise_mergeSort trans total functions).imp of_decide_eq_true
  · intro name
    have equal : (functions.filter (·.name == name)).Pairwise
        fun f h => decide (f.name ≤ h.name) = true := by
      rw [List.pairwise_filter]
      apply List.pairwise_of_forall
      intro f h hf hh
      rw [eq_of_beq hf, eq_of_beq hh]
      exact decide_eq_true (String.le_refl name)
    have kept := (List.sublist_mergeSort trans total equal List.filter_sublist).filter
      (·.name == name)
    rw [List.filter_filter] at kept
    simp only [Bool.and_self] at kept
    exact (kept.eq_of_length (perm.filter _).length_eq.symm).symm

/-- Two ascending lists with the same functions of every name, in the same order, are equal. -/
theorem eq_of_same_by_name {xs ys : List HostFunction}
    (hx : xs.Pairwise fun f h => f.name ≤ h.name) (hy : ys.Pairwise fun f h => f.name ≤ h.name)
    (same : ∀ name, xs.filter (·.name == name) = ys.filter (·.name == name)) : xs = ys := by
  induction xs generalizing ys with
  | nil =>
    cases ys with
    | nil => rfl
    | cons y ys =>
      have impossible := same y.name
      simp at impossible
  | cons x xs ih =>
    cases ys with
    | nil =>
      have impossible := same x.name
      simp at impossible
    | cons y ys =>
      obtain ⟨below_x, tail_x⟩ := List.pairwise_cons.1 hx
      obtain ⟨below_y, tail_y⟩ := List.pairwise_cons.1 hy
      have hxy : x ∈ y :: ys := by
        have found : x ∈ (x :: xs).filter (·.name == x.name) := by simp
        rw [same] at found
        exact (List.mem_filter.1 found).1
      have hyx : y ∈ x :: xs := by
        have found : y ∈ (y :: ys).filter (·.name == y.name) := by simp
        rw [← same] at found
        exact (List.mem_filter.1 found).1
      have names : x.name = y.name := by
        apply String.le_antisymm
        · rcases List.mem_cons.1 hyx with rfl | member
          · exact String.le_refl _
          · exact below_x y member
        · rcases List.mem_cons.1 hxy with rfl | member
          · exact String.le_refl _
          · exact below_y x member
      have heads := same y.name
      simp only [List.filter_cons, names, beq_self_eq_true, if_true] at heads
      obtain ⟨rfl, _⟩ := List.cons.inj heads
      have tails : ∀ name, xs.filter (·.name == name) = ys.filter (·.name == name) := by
        intro name
        have both := same name
        rw [List.filter_cons, List.filter_cons] at both
        split at both
        · exact (List.cons.inj both).2
        · exact both
      rw [ih tail_x tail_y tails]

/-- With a name of their own for each, functions come in one order however they are given. -/
theorem sortByName_eq_of_perm {functions others : List HostFunction}
    (perm : functions.Perm others) (distinct : (functions.map (·.name)).Nodup) :
    sortByName others = sortByName functions := by
  have sorted := sortByName_sorted functions
  have also := sortByName_sorted others
  apply List.Perm.eq_of_pairwise _ also.ascending sorted.ascending
    ((also.perm.trans perm.symm).trans sorted.perm.symm)
  intro f h hf hh le ge
  have f_given : f ∈ functions := perm.mem_iff.2 (also.perm.mem_iff.1 hf)
  exact List.inj_on_of_nodup_map distinct f_given (sorted.perm.mem_iff.1 hh)
    (String.le_antisymm le ge)

theorem SortedByName.unique {functions xs ys : List HostFunction}
    (hx : SortedByName functions xs) (hy : SortedByName functions ys) : xs = ys :=
  eq_of_same_by_name hx.ascending hy.ascending fun name => by rw [hx.stable, hy.stable]

end HostCall
