import HostCall.Proofs.Acceptance
import HostCall.Proofs.Pass

/-!
Which of the declared names are C identifiers. The names of a function and of its parameters are
checked, and a name made from an identifier is one. The settings are taken as they are, and so is
the placeholder, which is all that a double pointer declares.
-/
namespace HostCall

namespace HostFunction

/-- The names that a wrapper declares for a parameter, in order. -/
def namesFor (f : HostFunction) (c : Catalog) (settings : Settings) (p : Param) : List String :=
  (f.backing? c settings p).toList ++ [f.localOf c settings p]

def parameterNames (f : HostFunction) (c : Catalog) (settings : Settings) : List String :=
  f.params.flatMap (f.namesFor c settings)

variable {f : HostFunction} {c : Catalog} {settings : Settings} {p : Param} {name : String}

theorem isIdentifier_backing (own : IsIdentifier (f.localOf c settings p))
    (h : f.backing? c settings p = some name) : IsIdentifier name := by
  rcases backing?_eq_some h with rfl | rfl
  · exact (isIdentifier_iff.1 (by decide)).append own
  · exact (isIdentifier_iff.1 (by decide)).append own

theorem isIdentifier_namesFor (own : IsIdentifier (f.localOf c settings p)) :
    ∀ name ∈ f.namesFor c settings p, IsIdentifier name := by
  intro name member
  rcases List.mem_append.1 member with backing | same
  · exact isIdentifier_backing own (Option.mem_toList.1 backing)
  · rw [List.mem_singleton.1 same]
    exact own

theorem namesFor_doublePointer (accepted : f.Accepted c settings) (member : p ∈ f.params)
    (double : p.isDoublePointer = true) : f.namesFor c settings p = [settings.placeholder] := by
  obtain ⟨range, stated⟩ := accepted.mapped p member double
  have chosen := Catalog.strategy_eq_mapMemory_iff.2 stated
  simp [namesFor, backing?, localOf, chosen, double]

theorem isIdentifier_of_single (accepted : f.Accepted c settings) (member : p ∈ f.params)
    (single : p.isDoublePointer = false) :
    f.localOf c settings p = p.name ∧ ∀ name ∈ f.namesFor c settings p, IsIdentifier name := by
  have own : f.localOf c settings p = p.name := by
    rw [accepted.localOf_eq member, Param.hostLocal, single]
    rfl
  refine ⟨own, isIdentifier_namesFor ?_⟩
  rw [own]
  exact accepted.paramNames p member

end HostFunction

/-- The names that a complete wrapper declares for its parameters are identifiers, but for the
placeholder, which is declared as it is. -/
theorem Generator.emit_identifiers (g : Generator) (f : HostFunction) (text : String)
    (complete : (g.emit f).result = .ok text) :
    (∃ body, text = "// " ++ f.name ++ "\n" ++ "void " ++ g.settings.wrapperPrefix ++ f.name ++
        "(CPU* cpu) \x7b\n" ++ body ++ "\x7d\n" ∧
      Declares (f.parameterNames g.catalog g.settings ++ (f.statusLocal? g.settings).toList) body) ∧
    IsIdentifier f.name ∧
    (∀ p ∈ f.params, p.isDoublePointer = false →
      f.localOf g.catalog g.settings p = p.name ∧
        ∀ name ∈ f.namesFor g.catalog g.settings p, IsIdentifier name) ∧
    (∀ p ∈ f.params, p.isDoublePointer = true →
      f.namesFor g.catalog g.settings p = [g.settings.placeholder]) ∧
    ((∀ name ∈ f.parameterNames g.catalog g.settings, IsIdentifier name) ↔
      ((∃ p ∈ f.params, p.isDoublePointer = true) → IsIdentifier g.settings.placeholder)) := by
  rw [emit_result] at complete
  have accepted := HostFunction.accepted_of_ok complete
  obtain ⟨declared, rfl⟩ := HostFunction.attempt_eq_ok complete
  have single := fun p (member : p ∈ f.params) =>
    HostFunction.isIdentifier_of_single accepted member
  have double := fun p (member : p ∈ f.params) =>
    HostFunction.namesFor_doublePointer accepted member
  refine ⟨HostFunction.declares_body g.settings _ declared, accepted.name, single, double, ?_⟩
  constructor
  · rintro all ⟨p, member, pointer⟩
    refine all _ (List.mem_flatMap.2 ⟨p, member, ?_⟩)
    rw [double p member pointer]
    exact List.mem_singleton_self _
  · intro placeholder name member
    obtain ⟨p, inParams, named⟩ := List.mem_flatMap.1 member
    cases pointer : p.isDoublePointer with
    | false => exact (single p inParams pointer).2 name named
    | true =>
      rw [double p inParams pointer, List.mem_singleton] at named
      rw [named]
      exact placeholder ⟨p, inParams, pointer⟩

theorem emit_identifiers_mapMemory :
    ∃ text, (mapper.emit mapMemory).result = .ok text ∧
      mapMemory.parameterNames mapper.catalog mapper.settings =
        ["device", "local_info", "info", "pData"] ∧
      IsIdentifier mapMemory.name ∧
      ∀ name ∈ ["device", "local_info", "info", "pData"], IsIdentifier name := by
  have names : mapMemory.parameterNames mapper.catalog mapper.settings =
      ["device", "local_info", "info", "pData"] := by decide
  have placeholder : IsIdentifier mapper.settings.placeholder := isIdentifier_iff.1 (by decide)
  obtain ⟨text, complete⟩ := Generator.ok_of_wraps (g := mapper) (f := mapMemory) (by decide)
  obtain ⟨_, function, _, _, all⟩ := mapper.emit_identifiers mapMemory text complete
  rw [names] at all
  exact ⟨text, complete, names, function, all.2 fun _ => placeholder⟩

/-- The placeholder begins with a digit and has a space in it. -/
def spacedPlaceholder : Generator :=
  { catalog := { mappings := [{ function := "vkF", param := "ppData", handle := "h", size := "s" }] }
    settings := { placeholder := "1 x" } }

def rangeReceived : HostFunction :=
  { name := "vkF"
    params := [
      { name := "ppData", type := "void", isPointer := true, isDoublePointer := true
        guestValue := "ARG1", hostValue := "ppData" }] }

/-- A wrapper is complete although it declares a local that is no identifier. -/
theorem not_identifier_spacedPlaceholder :
    (spacedPlaceholder.emit rangeReceived).result = .ok (
      "// vkF\n" ++
      "void boxed_vkF(CPU* cpu) \x7b\n" ++
      "    void* 1 x = NULL;\n" ++
      "    pBoxedInfo->pvkF(&1 x);\n" ++
      "    mapVkMemory(h, 1 x, s);\n" ++
      "\x7d\n") ∧
    rangeReceived.parameterNames spacedPlaceholder.catalog spacedPlaceholder.settings = ["1 x"] ∧
    ¬ IsIdentifier "1 x" := by
  have spaced : ¬ IsIdentifier "1 x" := by
    rw [← isIdentifier_iff]
    decide
  exact ⟨rfl, by decide, spaced⟩

end HostCall
