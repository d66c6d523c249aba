import HostCall.Proofs.Declaration
import HostCall.Proofs.Operations

/-!
Which strategy a configuration chooses for a parameter, as a scan of its entries. Of the mapped
ranges stated for the function and the parameter the last one counts, before anything else; then
whether the type is excluded, or what the last entry of its name says. Nothing that is done with a
generator changes the choice.
-/
namespace HostCall

/-- The last of the wanted entries of a list. -/
def IsLast {α : Type} (wanted : α → Prop) (xs : List α) (x : α) : Prop :=
  ∃ before after, xs = before ++ x :: after ∧ wanted x ∧ ∀ y ∈ after, ¬ wanted y

theorem findRev?_eq_some_iff {α : Type} {wanted : α → Bool} {xs : List α} {x : α} :
    xs.findRev? wanted = some x ↔ IsLast (wanted · = true) xs x := by
  rw [List.findRev?_eq_find?_reverse, List.find?_eq_some_iff_append]
  constructor
  · rintro ⟨meant, after, before, split, others⟩
    refine ⟨before.reverse, after.reverse, ?_, meant, ?_⟩
    · rw [← List.reverse_reverse xs, split]
      simp
    · intro y member
      simpa using others y (List.mem_reverse.1 member)
  · rintro ⟨before, after, rfl, meant, others⟩
    refine ⟨meant, after.reverse, before.reverse, by simp, ?_⟩
    intro y member
    simpa using others y (List.mem_reverse.1 member)

namespace Catalog

variable {c : Catalog} {function type : String} {p : Param}

theorem foldl_withMapping (c : Catalog) (ms : List Mapping) :
    ms.foldl withMapping c = { c with mappings := c.mappings ++ ms } := by
  induction ms generalizing c with
  | nil => simp
  | cons m ms ih => simp [ih, withMapping]

theorem range?_withMapping (c : Catalog) (m : Mapping) (function param : String) :
    (c.withMapping m).range? function param =
      if m.function = function ∧ m.param = param then some m.toMappedRange
      else c.range? function param := by
  simp only [range?, withMapping, findRev?_append]
  by_cases same : m.function = function ∧ m.param = param
  · simp [List.findRev?, same]
  · have missed : (m.function == function && m.param == param) = false := by simpa using same
    simp [List.findRev?, missed, same]

/-- A stated range replaces the one that was stated for the same parameter of the same function,
and concerns no other. -/
theorem strategy_withMapping (c : Catalog) (m : Mapping) (function : String) (p : Param) :
    (c.withMapping m).strategy function p =
      if m.function = function ∧ m.param = p.name then .mapMemory m.toMappedRange
      else c.strategy function p := by
  unfold strategy
  rw [range?_withMapping]
  by_cases same : m.function = function ∧ m.param = p.name
  · simp only [if_pos same]
  · simp only [if_neg same]
    rfl

theorem range?_eq_some_iff {range : MappedRange} {param : String} :
    c.range? function param = some range ↔
      ∃ m, IsLast (fun m => m.function = function ∧ m.param = param) c.mappings m ∧
        m.toMappedRange = range := by
  simp only [range?, Option.map_eq_some_iff, findRev?_eq_some_iff, Bool.and_eq_true, beq_iff_eq]

theorem category?_eq_some_iff {category : Category} :
    c.category? type = some category ↔
      ∃ t, IsLast (·.name = type) c.types t ∧ t.category = category := by
  simp only [category?, Option.map_eq_some_iff, findRev?_eq_some_iff, beq_iff_eq]

theorem hasLayout_iff_last :
    c.hasLayout type = true ↔
      ∃ t, IsLast (·.name = type) c.types t ∧ (t.category = .struct ∨ t.category = .union) := by
  rw [hasLayout_iff, category?_eq_some_iff, category?_eq_some_iff]
  constructor
  · rintro (⟨t, last, same⟩ | ⟨t, last, same⟩)
    · exact ⟨t, last, .inl same⟩
    · exact ⟨t, last, .inr same⟩
  · rintro ⟨t, last, same | same⟩
    · exact .inl ⟨t, last, same⟩
    · exact .inr ⟨t, last, same⟩

theorem strategy_eq_structIn_iff (unstated : c.range? function p.name = none) :
    c.strategy function p = .structIn ↔
      p.isSinglePointer = true ∧ (p.type ∈ c.excluded ∨ c.hasLayout p.type = true) := by
  have excluded : c.isExcluded p.type = true ↔ p.type ∈ c.excluded := List.contains_iff_mem
  rw [← excluded]
  refine ⟨strategy_eq_structIn, fun ⟨single, known⟩ => ?_⟩
  unfold strategy
  simp only [unstated]
  rw [if_pos (by simpa [single] using known)]

/-- The choice of a strategy is a scan of what was configured and stated, in that order. -/
theorem strategy_scan (types : List TypeEntry) (m : Marshalling) (stated : List Mapping)
    (function : String) (p : Param) :
    let c := stated.foldl withMapping (ofConfig types m)
    let entries := m.mappings ++ stated
    let meant := fun e : Mapping => e.function = function ∧ e.param = p.name
    ((∃ e ∈ entries, meant e) →
      ∃ e, IsLast meant entries e ∧ c.strategy function p = .mapMemory e.toMappedRange) ∧
    ((∀ e ∈ entries, ¬ meant e) →
      (c.strategy function p = .structIn ↔
        p.isPointer = true ∧ p.isDoublePointer = false ∧
          (p.type ∈ m.excludedTypes ∨
            ∃ t, IsLast (·.name = p.type) types t ∧
              (t.category = .struct ∨ t.category = .union))) ∧
      (c.strategy function p ≠ .structIn → c.strategy function p = .direct)) ∧
    ∀ (g : Generator) (ops : List Operation), g.catalog = c → (∀ op ∈ ops, op.KeepsTable) →
      (g.run ops).1.catalog.strategy function p = c.strategy function p := by
  intro c entries meant
  have combined : c = { ofConfig types m with mappings := entries } := foldl_withMapping _ stated
  have mappings : c.mappings = entries := by rw [combined]
  refine ⟨?_, ?_, ?_⟩
  · rintro ⟨e, member, named⟩
    cases found : c.range? function p.name with
    | none =>
      rw [range?_eq_none_iff, mappings] at found
      exact absurd named (found e member)
    | some range =>
      obtain ⟨last, isLast, rfl⟩ := range?_eq_some_iff.1 found
      rw [mappings] at isLast
      exact ⟨last, isLast, strategy_eq_mapMemory_iff.2 found⟩
  · intro absent
    have unstated : c.range? function p.name = none := by
      rw [range?_eq_none_iff, mappings]
      exact absent
    refine ⟨?_, (strategy_of_unstated unstated).resolve_left⟩
    have single : p.isSinglePointer = true ↔ p.isPointer = true ∧ p.isDoublePointer = false := by
      simp [Param.isSinglePointer]
    rw [strategy_eq_structIn_iff unstated, hasLayout_iff_last, single, combined, and_assoc]
    rfl
  · intro g ops same table
    rw [Generator.run_catalog g table, same]

end Catalog

end HostCall
