import HostCall.Proofs.Resolution

/-!
Tables filled by overwriting. Types are kept in a map by their names, excluded types in a set, and
mapped ranges in a map by function and parameter. Every entry is put in under its key and takes the
place of an earlier one there, so the tables answer as the last entries of the configuration do, and
the strategy that is chosen from them is the one that the entries choose.
-/
namespace HostCall

/-- Entries put into a store one after another: a key has the value of the last entry under it, or
what the store had there before. -/
theorem lookup_foldl_insert {σ ε κ ν : Type} [BEq κ] {insert : σ → ε → σ}
    {lookup : σ → κ → Option ν} {key : ε → κ} {value : ε → ν}
    (law : ∀ t e k, lookup (insert t e) k = if key e == k then some (value e) else lookup t k)
    (t : σ) (entries : List ε) (k : κ) :
    lookup (entries.foldl insert t) k =
      ((entries.findRev? (key · == k)).map value).or (lookup t k) := by
  induction entries generalizing t with
  | nil => rfl
  | cons e rest ih =>
    rw [List.foldl_cons, ih, law, List.findRev?]
    cases rest.findRev? (key · == k) with
    | some last => rfl
    | none => cases key e == k <;> rfl

structure Tables where
  types : Std.TreeMap String Category
  excluded : Std.TreeSet String
  ranges : Std.HashMap (String × String) MappedRange

namespace Tables

def putType (types : Std.TreeMap String Category) (t : TypeEntry) : Std.TreeMap String Category :=
  types.insert t.name t.category

def putRange (ranges : Std.HashMap (String × String) MappedRange) (m : Mapping) :
    Std.HashMap (String × String) MappedRange :=
  ranges.insert (m.function, m.param) m.toMappedRange

def ofConfig (types : List TypeEntry) (m : Marshalling) : Tables :=
  { types := types.foldl putType ∅
    excluded := m.excludedTypes.foldl Std.TreeSet.insert ∅
    ranges := m.mappings.foldl putRange ∅ }

/-- States one more mapped range. -/
def withMapping (t : Tables) (m : Mapping) : Tables := { t with ranges := putRange t.ranges m }

/-- The strategy for a parameter: a stated range first, then the excluded types, then the layouts. -/
def resolve (t : Tables) (function : String) (p : Param) : Strategy :=
  match t.ranges[(function, p.name)]? with
  | some range => .mapMemory range
  | none =>
    if p.isPointer && !p.isDoublePointer then
      if t.excluded.contains p.type then .structIn
      else if t.types[p.type]?.any Category.hasLayout then .structIn
      else .direct
    else .direct

/-- The tables answer as the catalog does. -/
structure Reflects (t : Tables) (c : Catalog) : Prop where
  category : ∀ type, t.types[type]? = c.category? type
  excluded : ∀ type, t.excluded.contains type = c.isExcluded type
  range : ∀ function param, t.ranges[(function, param)]? = c.range? function param

theorem getElem?_putType (types : Std.TreeMap String Category) (t : TypeEntry) (name : String) :
    (putType types t)[name]? = if t.name == name then some t.category else types[name]? := by
  rw [putType, Std.TreeMap.getElem?_insert]
  simp only [Std.LawfulEqCmp.compare_eq_iff_eq, beq_iff_eq]

theorem getElem?_putRange (ranges : Std.HashMap (String × String) MappedRange) (m : Mapping)
    (key : String × String) :
    (putRange ranges m)[key]? =
      if (m.function, m.param) == key then some m.toMappedRange else ranges[key]? :=
  Std.HashMap.getElem?_insert

theorem contains_foldl_insert (names : Std.TreeSet String) (others : List String) (name : String) :
    (others.foldl Std.TreeSet.insert names).contains name =
      (names.contains name || others.contains name) := by
  induction others generalizing names with
  | nil => simp
  | cons other rest ih =>
    have same : (compare other name == .eq) = (name == other) := by
      rw [Bool.eq_iff_iff, beq_iff_eq, beq_iff_eq, Std.LawfulEqCmp.compare_eq_iff_eq, eq_comm]
    rw [List.foldl_cons, ih, Std.TreeSet.contains_insert, List.contains_cons, same]
    rw [Bool.or_comm (name == other), Bool.or_assoc]

theorem reflects_ofConfig (types : List TypeEntry) (m : Marshalling) :
    (ofConfig types m).Reflects (.ofConfig types m) where
  category type := by
    have last := lookup_foldl_insert getElem?_putType ∅ types type
    rw [Std.TreeMap.getElem?_emptyc, Option.or_none] at last
    exact last
  excluded type := by
    have listed := contains_foldl_insert ∅ m.excludedTypes type
    rw [Std.TreeSet.contains_emptyc, Bool.false_or] at listed
    exact listed
  range function param := by
    have last := lookup_foldl_insert getElem?_putRange ∅ m.mappings (function, param)
    rw [Std.HashMap.getElem?_empty, Option.or_none] at last
    exact last

/-- A range stated later overwrites in the tables what it overrules in the catalog. -/
theorem Reflects.withMapping {t : Tables} {c : Catalog} (h : t.Reflects c) (m : Mapping) :
    (t.withMapping m).Reflects (c.withMapping m) where
  category := h.category
  excluded := h.excluded
  range function param := by
    have put : (t.withMapping m).ranges[(function, param)]? = _ :=
      getElem?_putRange t.ranges m (function, param)
    rw [put, Catalog.range?_withMapping, h.range]
    simp only [beq_iff_eq, Prod.mk.injEq]

theorem Reflects.foldl_withMapping {t : Tables} {c : Catalog} (h : t.Reflects c)
    (stated : List Mapping) :
    (stated.foldl Tables.withMapping t).Reflects (stated.foldl Catalog.withMapping c) := by
  induction stated generalizing t c with
  | nil => exact h
  | cons m rest ih => exact ih (h.withMapping m)

theorem Reflects.resolve_eq {t : Tables} {c : Catalog} (h : t.Reflects c) (function : String)
    (p : Param) : t.resolve function p = c.strategy function p := by
  unfold resolve Catalog.strategy Catalog.hasLayout
  rw [h.range, h.excluded, h.category]
  cases c.range? function p.name with
  | some range => rfl
  | none =>
    unfold Param.isSinglePointer
    cases p.isPointer && !p.isDoublePointer <;> cases c.isExcluded p.type <;> simp

/-- What is chosen from tables that were filled entry by entry is what the last entries choose. -/
theorem resolve_eq_strategy (types : List TypeEntry) (m : Marshalling) (stated : List Mapping)
    (function : String) (p : Param) :
    (stated.foldl withMapping (ofConfig types m)).resolve function p =
      (stated.foldl Catalog.withMapping (.ofConfig types m)).strategy function p :=
  ((reflects_ofConfig types m).foldl_withMapping stated).resolve_eq function p

end Tables

end HostCall
