import HostCall.Proofs.Pass

/-!
What can become of a generator. Whatever is emitted, the registered types stay as they are, flags
that are set stay set, and only registered types are flagged. Emissions and passes are chains of
steps of this kind, as the relation is reflexive and transitive.
-/
namespace HostCall

theorem Catalog.isRegistered_congr {c d : Catalog} (same : d.types = c.types) :
    d.isRegistered = c.isRegistered := by
  funext type
  unfold isRegistered category?
  rw [same]

namespace Generator

variable {g h k : Generator}

/-- The second generator may have come from the first. -/
structure Grows (g h : Generator) : Prop where
  types : h.catalog.types = g.catalog.types
  kept : ∀ type ∈ g.flagged, type ∈ h.flagged
  registered : ∀ type ∈ h.flagged, type ∈ g.flagged ∨ g.catalog.isRegistered type = true

namespace Grows

theorem of_flagged_eq (types : h.catalog.types = g.catalog.types)
    (flagged : h.flagged = g.flagged) : Grows g h := by
  refine ⟨types, ?_, ?_⟩
  · intro type old
    rw [flagged]
    exact old
  · intro type new
    rw [flagged] at new
    exact .inl new

theorem refl (g : Generator) : Grows g g := .of_flagged_eq rfl rfl

theorem trans (first : Grows g h) (second : Grows h k) : Grows g k := by
  refine ⟨second.types.trans first.types, ?_, ?_⟩
  · intro type old
    exact second.kept type (first.kept type old)
  · intro type new
    rcases second.registered type new with old | known
    · exact first.registered type old
    · rw [Catalog.isRegistered_congr first.types] at known
      exact .inr known

end Grows

theorem mark_grows (g : Generator) (type : String) : Grows g (g.mark type).1 := by
  unfold mark
  split
  · rename_i known
    refine ⟨rfl, ?_, ?_⟩
    · intro other old
      exact NameSet.mem_insert.2 (.inr old)
    · intro other new
      rcases NameSet.mem_insert.1 new with rfl | old
      · exact .inr known
      · exact .inl old
  · exact .refl g

theorem commit_grows (g : Generator) : Grows g g.commit.1 := by
  refine ⟨by rw [commit_generator], ?_, ?_⟩
  · intro type old
    exact mem_commit_flagged.2 (.inl old)
  · intro type new
    exact (mem_commit_flagged.1 new).imp_right And.right

theorem emit_grows (g : Generator) (f : HostFunction) : Grows g (g.emit f).generator := by
  have types : (g.emit f).generator.catalog.types = g.catalog.types := by rw [emit_catalog]
  cases outcome : (g.emit f).result with
  | error fault => exact .of_flagged_eq types (emit_flagged_of_error outcome)
  | ok text =>
    refine ⟨types, ?_, ?_⟩
    · intro type old
      exact (mem_emit_flagged_of_ok outcome).2 (.inl old)
    · intro type new
      exact ((mem_emit_flagged_of_ok outcome).1 new).imp_right And.right

theorem emitAll_grows (g : Generator) (policy : Policy) (functions : List HostFunction) :
    Grows g (g.emitAll policy functions).generator :=
  emitAll_invariant (fun h f grown => grown.trans (emit_grows h f)) policy functions (.refl g)

end Generator

end HostCall
