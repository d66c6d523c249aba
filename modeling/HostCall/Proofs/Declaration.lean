import HostCall.Strategy

/-!
What a strategy does for one parameter: when it can declare it, what the declaration demands, and
which of the obstacles a strategy chosen by the catalog can still meet. Nothing here looks at more
than the catalog, the settings and the parameter.
-/
namespace HostCall

theorem Category.hasLayout_iff {c : Category} : c.hasLayout = true ↔ c = .struct ∨ c = .union := by
  cases c <;> decide

namespace Catalog

variable {c : Catalog} {type function : String} {p : Param}

theorem hasLayout_iff :
    c.hasLayout type = true ↔ c.category? type = some .struct ∨ c.category? type = some .union := by
  unfold hasLayout
  cases c.category? type with
  | none => simp
  | some category => simp [Category.hasLayout_iff]

theorem isRegistered_of_hasLayout (h : c.hasLayout type = true) : c.isRegistered type = true := by
  rcases hasLayout_iff.1 h with h | h <;> simp [isRegistered, h]

/-- Only single pointers to excluded types and to aggregates are marshalled as structs. -/
theorem strategy_eq_structIn (h : c.strategy function p = .structIn) :
    p.isSinglePointer = true ∧ (c.isExcluded p.type = true ∨ c.hasLayout p.type = true) := by
  unfold strategy at h
  split at h
  · cases h
  · split at h
    · rename_i aggregate
      simpa only [Bool.and_eq_true, Bool.or_eq_true] using aggregate
    · cases h

/-- A range that is stated for a parameter is all that counts for it. -/
theorem strategy_eq_mapMemory_iff {range : MappedRange} :
    c.strategy function p = .mapMemory range ↔ c.range? function p.name = some range := by
  unfold strategy
  cases c.range? function p.name with
  | some other => simp
  | none =>
    dsimp only
    split <;> simp

theorem strategy_of_unstated (h : c.range? function p.name = none) :
    c.strategy function p = .structIn ∨ c.strategy function p = .direct := by
  cases chosen : c.strategy function p with
  | direct => exact .inr rfl
  | structIn => exact .inl rfl
  | mapMemory range =>
    rw [strategy_eq_mapMemory_iff.1 chosen] at h
    cases h

end Catalog

namespace Strategy

variable {c : Catalog} {settings : Settings} {function : String} {p : Param} {d : Declaration}

theorem declareDirect_eq_ok (h : declareDirect p = .ok d) :
    p.isDoublePointer = false ∧ d.param = p ∧ d.demand = .nothing := by
  unfold declareDirect at h
  split at h
  · cases h
  · cases h
    exact ⟨Bool.eq_false_iff.2 ‹_›, rfl, rfl⟩

theorem declareStruct_eq_ok (h : declareStruct c settings function p = .ok d) :
    p.isSinglePointer = true ∧
      (c.isExcluded p.type = true ∧ d = declareNull settings function p ∨
        c.isExcluded p.type = false ∧ c.hasLayout p.type = true ∧ d = declareCopy settings p) := by
  unfold declareStruct at h
  split at h
  · cases h
  · rename_i single
    have single : p.isSinglePointer = true := by simpa using single
    split at h
    · rename_i excluded
      cases h
      exact ⟨single, .inl ⟨excluded, rfl⟩⟩
    · rename_i included
      have included : c.isExcluded p.type = false := Bool.eq_false_iff.2 included
      split at h
      · cases h
      · rename_i category found
        split at h
        · rename_i layout
          cases h
          exact ⟨single, .inr ⟨included, by simp [Catalog.hasLayout, found, layout], rfl⟩⟩
        · cases h

/-- A parameter for which the catalog chooses a struct can always be declared as one. -/
theorem declareStruct_of_chosen (settings : Settings) (h : c.strategy function p = .structIn) :
    declareStruct c settings function p =
      .ok (if c.isExcluded p.type then declareNull settings function p
        else declareCopy settings p) := by
  obtain ⟨single, known⟩ := Catalog.strategy_eq_structIn h
  unfold declareStruct
  rw [single]
  by_cases excluded : c.isExcluded p.type = true
  · simp [excluded]
  · have layout := known.resolve_left excluded
    rcases Catalog.hasLayout_iff.1 layout with found | found <;>
      simp [excluded, found, Category.hasLayout]

theorem declareRange_eq_ok (h : declareRange settings p = .ok d) :
    p.isPointer = true ∧ d.demand = .nothing := by
  unfold declareRange at h
  split at h
  · cases h
  · rename_i pointer
    cases h
    exact ⟨by simpa using pointer, rfl⟩

/-- Whatever the strategy, only struct parameters of types that are not excluded ask for a routine. -/
theorem demand_eq_marshalIn_iff {s : Strategy} {type : String}
    (h : s.declare c settings function p = .ok d) :
    d.demand = .marshalIn type ↔ s = .structIn ∧ c.isExcluded type = false ∧ p.type = type := by
  cases s with
  | direct => simp [(declareDirect_eq_ok h).2.2]
  | mapMemory range => simp [(declareRange_eq_ok h).2]
  | structIn =>
    rcases (declareStruct_eq_ok h).2 with ⟨excluded, rfl⟩ | ⟨included, _, rfl⟩
    · constructor
      · intro impossible; cases impossible
      · rintro ⟨_, included, rfl⟩
        exact absurd excluded (Bool.eq_false_iff.1 included)
    · constructor
      · intro same
        cases same
        exact ⟨rfl, included, rfl⟩
      · rintro ⟨_, _, rfl⟩
        rfl

end Strategy

end HostCall
