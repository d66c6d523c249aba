import HostCall.Wrapper
import Mathlib.Data.List.Nodup

/-!
A catalog is only looked into. Catalogs that answer every question alike choose the same
strategies and give the same attempts, whatever the order of their entries and whatever entries
they hold that a later one of the same key overrules.
-/
namespace HostCall

section LastEntry

variable {α : Type} {wanted : α → Bool}

theorem findRev?_append (xs ys : List α) :
    (xs ++ ys).findRev? wanted = (ys.findRev? wanted).or (xs.findRev? wanted) := by
  simp [List.findRev?_eq_find?_reverse, List.find?_append]

theorem findRev?_eq_some {xs : List α} {x : α} (h : xs.findRev? wanted = some x) :
    x ∈ xs ∧ wanted x = true := by
  rw [List.findRev?_eq_find?_reverse] at h
  exact ⟨List.mem_reverse.1 (List.mem_of_find?_eq_some h), List.find?_some h⟩

theorem findRev?_eq_none_iff {xs : List α} :
    xs.findRev? wanted = none ↔ ∀ x ∈ xs, ¬ wanted x = true := by
  simp [List.findRev?_eq_find?_reverse, List.find?_eq_none]

/-- Where only one entry can be meant, its place does not matter. -/
theorem findRev?_eq_of_perm {xs ys : List α} (perm : xs.Perm ys)
    (unique : ∀ x ∈ xs, ∀ y ∈ xs, wanted x = true → wanted y = true → x = y) :
    ys.findRev? wanted = xs.findRev? wanted := by
  cases found : xs.findRev? wanted with
  | none =>
    rw [findRev?_eq_none_iff] at found ⊢
    exact fun y member => found y (perm.mem_iff.2 member)
  | some x =>
    obtain ⟨hx, meant⟩ := findRev?_eq_some found
    cases other : ys.findRev? wanted with
    | none => exact absurd meant (findRev?_eq_none_iff.1 other x (perm.mem_iff.1 hx))
    | some y =>
      obtain ⟨hy, also⟩ := findRev?_eq_some other
      rw [unique x hx y (perm.mem_iff.2 hy) meant also]

/-- An entry before another one that is meant whenever it is itself changes nothing. -/
theorem findRev?_overruled {before after : List α} {entry : α}
    (later : wanted entry = true → ∃ y ∈ after, wanted y = true) :
    (before ++ entry :: after).findRev? wanted = (before ++ after).findRev? wanted := by
  rw [findRev?_append, findRev?_append]
  cases found : after.findRev? wanted with
  | some y => simp only [List.findRev?, found]
  | none =>
    have missed : ¬ wanted entry = true := by
      intro meant
      obtain ⟨y, member, also⟩ := later meant
      exact findRev?_eq_none_iff.1 found y member also
    simp only [List.findRev?, found, if_neg missed]

end LastEntry

namespace Catalog

theorem range?_eq_none_iff {c : Catalog} {function param : String} :
    c.range? function param = none ↔
      ∀ m ∈ c.mappings, ¬ (m.function = function ∧ m.param = param) := by
  simp only [range?, Option.map_eq_none_iff, findRev?_eq_none_iff, Bool.and_eq_true, beq_iff_eq]

/-- The second catalog answers every question as the first one does. -/
structure Agrees (c d : Catalog) : Prop where
  category : d.category? = c.category?
  excluded : d.isExcluded = c.isExcluded
  range : d.range? = c.range?

variable {c d : Catalog} {settings : Settings} {f : HostFunction}

namespace Agrees

theorem isRegistered_eq (h : c.Agrees d) : d.isRegistered = c.isRegistered := by
  funext type
  rw [isRegistered, isRegistered, h.category]

theorem hasLayout_eq (h : c.Agrees d) : d.hasLayout = c.hasLayout := by
  funext type
  rw [hasLayout, hasLayout, h.category]

theorem strategy_eq (h : c.Agrees d) : d.strategy = c.strategy := by
  funext function p
  unfold strategy
  rw [h.range, h.excluded, h.hasLayout_eq]

theorem declare_eq (h : c.Agrees d) (s : Strategy) (function : String) (p : Param) :
    s.declare d settings function p = s.declare c settings function p := by
  cases s with
  | direct => rfl
  | mapMemory range => rfl
  | structIn =>
    unfold Strategy.declare Strategy.declareStruct
    rw [h.excluded, h.category]

theorem declareAll_eq (h : c.Agrees d) (rest : List (Param × Strategy)) :
    f.declareAll d settings rest = f.declareAll c settings rest := by
  induction rest with
  | nil => rfl
  | cons x rest ih =>
    simp only [HostFunction.declareAll, h.declare_eq, ih]

theorem attempt_eq (h : c.Agrees d) (f : HostFunction) (settings : Settings) :
    f.attempt d settings = f.attempt c settings := by
  unfold HostFunction.attempt
  simp only [h.strategy_eq, h.declareAll_eq]

end Agrees

theorem agrees_of_perm_types {types : List TypeEntry} (perm : c.types.Perm types)
    (distinct : (c.types.map (·.name)).Nodup) : c.Agrees { c with types } := by
  refine ⟨?_, rfl, rfl⟩
  funext type
  unfold category?
  rw [findRev?_eq_of_perm perm]
  intro x hx y hy meant also
  exact List.inj_on_of_nodup_map distinct hx hy ((eq_of_beq meant).trans (eq_of_beq also).symm)

theorem agrees_of_perm_mappings {mappings : List Mapping} (perm : c.mappings.Perm mappings)
    (distinct : (c.mappings.map fun m => (m.function, m.param)).Nodup) :
    c.Agrees { c with mappings } := by
  refine ⟨rfl, rfl, ?_⟩
  funext function param
  unfold range?
  rw [findRev?_eq_of_perm perm]
  intro x hx y hy meant also
  rw [Bool.and_eq_true, beq_iff_eq, beq_iff_eq] at meant also
  apply List.inj_on_of_nodup_map distinct hx hy
  rw [meant.1, meant.2, also.1, also.2]

theorem agrees_of_same_excluded {excluded : List String}
    (same : ∀ type, type ∈ c.excluded ↔ type ∈ excluded) : c.Agrees { c with excluded } := by
  refine ⟨rfl, ?_, rfl⟩
  funext type
  unfold isExcluded
  rw [Bool.eq_iff_iff, List.contains_iff_mem, List.contains_iff_mem]
  exact (same type).symm

theorem agrees_of_overruled_type {before after : List TypeEntry} {entry : TypeEntry}
    (split : c.types = before ++ after) (later : ∃ other ∈ after, other.name = entry.name) :
    c.Agrees { c with types := before ++ entry :: after } := by
  refine ⟨?_, rfl, rfl⟩
  funext type
  unfold category?
  rw [split, findRev?_overruled]
  intro meant
  obtain ⟨other, member, same⟩ := later
  exact ⟨other, member, by rw [same]; exact meant⟩

theorem agrees_of_overruled_mapping {before after : List Mapping} {entry : Mapping}
    (split : c.mappings = before ++ after)
    (later : ∃ other ∈ after, other.function = entry.function ∧ other.param = entry.param) :
    c.Agrees { c with mappings := before ++ entry :: after } := by
  refine ⟨rfl, rfl, ?_⟩
  funext function param
  unfold range?
  rw [split, findRev?_overruled]
  intro meant
  obtain ⟨other, member, same⟩ := later
  exact ⟨other, member, by rw [same.1, same.2]; exact meant⟩

end Catalog

end HostCall
