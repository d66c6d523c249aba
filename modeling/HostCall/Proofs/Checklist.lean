import HostCall.Proofs.Emission
import HostCall.Proofs.Identifier

/-!
Which functions get a wrapper. Everything that is required of a function stands in one list, in the
order in which it is looked at, each entry with what is reported where it fails. A function has a
wrapper exactly when it meets the whole list, and otherwise the first entry that it does not meet
is reported.
-/
namespace HostCall

/-- Something required of a function, and what is reported where it is not met. -/
structure Requirement where
  met : Prop
  param : String
  reason : String

namespace Requirement

def ReportedBy (r : Requirement) (function : String) (fault : Unsupported) : Prop :=
  fault.function = function ∧ fault.param = r.param ∧ fault.obstacle.message = r.reason

def FirstUnmet (rs : List Requirement) (r : Requirement) : Prop :=
  ∃ before after, rs = before ++ r :: after ∧ (∀ b ∈ before, b.met) ∧ ¬ r.met

end Requirement

/-- What a function is told that goes through the requirements in order. -/
inductive Verdict (function : String) : List Requirement → Option Unsupported → Prop where
  | nil : Verdict function [] none
  | met {r : Requirement} {rest : List Requirement} {outcome : Option Unsupported} :
      r.met → Verdict function rest outcome → Verdict function (r :: rest) outcome
  | unmet {r : Requirement} {rest : List Requirement} {fault : Unsupported} :
      ¬ r.met → r.ReportedBy function fault → Verdict function (r :: rest) (some fault)

namespace Verdict

variable {function : String} {rs ts : List Requirement}

theorem all_met {outcome : Option Unsupported} (h : Verdict function rs outcome)
    (passed : outcome = none) : ∀ r ∈ rs, r.met := by
  induction h with
  | nil => simp
  | met first _ ih =>
    intro r member
    rcases List.mem_cons.1 member with rfl | member
    · exact first
    · exact ih passed r member
  | unmet => cases passed

theorem first_unmet {outcome : Option Unsupported} {fault : Unsupported}
    (h : Verdict function rs outcome) (failed : outcome = some fault) :
    ∃ r, Requirement.FirstUnmet rs r ∧ r.ReportedBy function fault := by
  induction h with
  | nil => cases failed
  | @met first rest _ holds _ ih =>
    obtain ⟨r, ⟨before, after, split, passed, broken⟩, reported⟩ := ih failed
    refine ⟨r, ⟨first :: before, after, by rw [split, List.cons_append], ?_, broken⟩, reported⟩
    intro b member
    rcases List.mem_cons.1 member with rfl | member
    · exact holds
    · exact passed b member
  | @unmet first rest _ broken reported =>
    cases failed
    exact ⟨first, ⟨[], rest, rfl, by simp, broken⟩, reported⟩

theorem append {first second : Option Unsupported} (h : Verdict function rs first)
    (next : Verdict function ts second) : Verdict function (rs ++ ts) (first <|> second) := by
  induction h with
  | nil => simpa using next
  | met holds _ ih => exact .met holds ih
  | unmet broken reported => exact .unmet broken reported

/-- A test in the code that fails exactly where a requirement is not met. -/
theorem guard {r : Requirement} {rejected : Bool} {fault : Unsupported}
    {outcome : Option Unsupported} (rejects : rejected = true ↔ ¬ r.met)
    (reported : r.ReportedBy function fault) (next : Verdict function rs outcome) :
    Verdict function (r :: rs) (if rejected then some fault else outcome) := by
  cases h : rejected with
  | true => exact .unmet (rejects.1 h) reported
  | false =>
    have holds : r.met := by
      by_contra broken
      rw [rejects.2 broken] at h
      cases h
    exact .met holds next

theorem findSome? {α : Type} {required : α → List Requirement} {fault? : α → Option Unsupported}
    (h : ∀ a, Verdict function (required a) (fault? a)) (as : List α) :
    Verdict function (as.flatMap required) (as.findSome? fault?) := by
  induction as with
  | nil => exact .nil
  | cons a as ih =>
    have both := (h a).append ih
    rw [List.flatMap_cons, List.findSome?_cons]
    cases outcome : fault? a with
    | none => simpa [outcome] using both
    | some fault => simpa [outcome] using both

end Verdict

namespace HostFunction

def localOf (f : HostFunction) (c : Catalog) (settings : Settings) (p : Param) : String :=
  match c.strategy f.name p with
  | .mapMemory _ => if p.isDoublePointer then settings.placeholder else p.name
  | .direct | .structIn => p.name

def signatureRequirements (f : HostFunction) (settings : Settings) : List Requirement :=
  [{ met := IsIdentifier f.name
     param := ""
     reason := "function name is not a C identifier" },
   { met := ¬ (f.returnType = none ∧ f.callStatus = .checked)
     param := ""
     reason := "void function cannot be checked against " ++ settings.successValue }]

def paramRequirements (p : Param) : List Requirement :=
  [{ met := IsIdentifier p.name
     param := p.name
     reason := "name is not a C identifier" },
   { met := p.isDoublePointer = true → p.isPointer = true
     param := p.name
     reason := "double pointer not marked as pointer" }]

def localRequirements (f : HostFunction) (c : Catalog) (settings : Settings)
    (earlier : List Param) (p : Param) : List Requirement :=
  [{ met := f.returnType ≠ none → f.localOf c settings p ≠ settings.statusLocal
     param := p.name
     reason := "name collides with the status local" },
   { met := ∀ q ∈ earlier, f.localOf c settings p ≠ f.localOf c settings q
     param := p.name
     reason := "local `" ++ f.localOf c settings p ++ "` is declared twice" }]

def strategyRequirements (f : HostFunction) (c : Catalog) (p : Param) : List Requirement :=
  [{ met := ∀ range, c.strategy f.name p = .mapMemory range → p.isPointer = true
     param := p.name
     reason := "mapped memory must be returned through a pointer" },
   { met := c.strategy f.name p = .direct → p.isDoublePointer = false
     param := p.name
     reason := "double pointers need an explicit strategy" }]

/-- Everything required of a function, in the order in which it is looked at. -/
def checklist (f : HostFunction) (c : Catalog) (settings : Settings) : List Requirement :=
  f.signatureRequirements settings ++ f.params.flatMap paramRequirements ++
    (f.params.zipIdx.flatMap fun (p, i) => f.localRequirements c settings (f.params.take i) p) ++
    f.params.flatMap (f.strategyRequirements c)

variable (f : HostFunction) (c : Catalog) (settings : Settings)

theorem localName_chosen (p : Param) :
    (c.strategy f.name p).localName settings p = f.localOf c settings p := by
  unfold localOf Strategy.localName
  cases c.strategy f.name p with
  | direct => rfl
  | structIn => rfl
  | mapMemory range => cases h : p.isDoublePointer <;> simp [Strategy.renamed?, h]

theorem rejects_name {name : String} : (!isIdentifier name) = true ↔ ¬ IsIdentifier name := by
  rw [Bool.not_eq_true', Bool.eq_false_iff, ne_eq, isIdentifier_iff]

theorem rejects_arity {p : Param} :
    (!p.hasConsistentArity) = true ↔ ¬ (p.isDoublePointer = true → p.isPointer = true) := by
  unfold Param.hasConsistentArity
  cases p.isDoublePointer <;> cases p.isPointer <;> decide

theorem paramFault?_eq (p : Param) :
    f.paramFault? p =
      if !isIdentifier p.name then some (f.unsupported p.name .paramNotIdentifier)
      else if !p.hasConsistentArity then some (f.unsupported p.name .inconsistentArity)
      else none := by
  unfold paramFault? Param.fault?
  cases isIdentifier p.name <;> cases p.hasConsistentArity <;> rfl

theorem param_verdict (p : Param) : Verdict f.name (paramRequirements p) (f.paramFault? p) := by
  rw [paramFault?_eq]
  refine Verdict.guard rejects_name ⟨rfl, rfl, rfl⟩ ?_
  refine Verdict.guard rejects_arity ⟨rfl, rfl, rfl⟩ ?_
  exact .nil

theorem signature_verdict :
    Verdict f.name (f.signatureRequirements settings ++ f.params.flatMap paramRequirements)
      (f.signatureFault? settings) := by
  unfold signatureFault?
  refine Verdict.guard rejects_name ⟨rfl, rfl, rfl⟩ ?_
  refine Verdict.guard (by simp) ⟨rfl, rfl, rfl⟩ ?_
  exact Verdict.findSome? f.param_verdict f.params

/-- `seen` holds the locals of the parameters that were looked at, which come `earlier`. -/
theorem locals_verdict (earlier rest : List Param) (seen : List String)
    (same : ∀ name, name ∈ seen ↔ ∃ q ∈ earlier, f.localOf c settings q = name) :
    Verdict f.name
      ((rest.zipIdx earlier.length).flatMap fun (p, i) =>
        f.localRequirements c settings ((earlier ++ rest).take i) p)
      (f.localFault? settings seen (rest.map fun p => (p, c.strategy f.name p))) := by
  induction rest generalizing earlier seen with
  | nil => exact .nil
  | cons p rest ih =>
    have tail := ih (earlier ++ [p]) (f.localOf c settings p :: seen) (by
      intro name
      simp only [List.mem_cons, same, List.mem_append, List.not_mem_nil, or_false]
      constructor
      · rintro (rfl | ⟨q, hq, hn⟩)
        · exact ⟨p, .inr rfl, rfl⟩
        · exact ⟨q, .inl hq, hn⟩
      · rintro ⟨q, hq | rfl, hn⟩
        · exact .inr ⟨q, hq, hn⟩
        · exact .inl hn.symm)
    simp only [List.length_append, List.length_cons, List.length_nil, Nat.zero_add,
      List.append_assoc, List.cons_append, List.nil_append] at tail
    simp only [List.zipIdx_cons, List.flatMap_cons, List.take_left, List.map_cons, localFault?,
      localName_chosen]
    have known : seen.contains (f.localOf c settings p) = true ↔
        ¬ ∀ q ∈ earlier, f.localOf c settings p ≠ f.localOf c settings q := by
      rw [List.contains_iff_mem, same]
      simp only [not_forall, not_not, exists_prop, eq_comm]
    refine Verdict.guard (by simp [Option.isSome_iff_ne_none]) ⟨rfl, rfl, rfl⟩ ?_
    refine Verdict.guard known ⟨rfl, rfl, rfl⟩ ?_
    exact tail

def declareFault? (p : Param) : Option Unsupported :=
  match (c.strategy f.name p).declare c settings f.name p with
  | .error obstacle => some (f.unsupported p.name obstacle)
  | .ok _ => none

theorem declareAll_fault (params : List Param) :
    (f.declareAll c settings (params.map fun p => (p, c.strategy f.name p))).2 =
      params.findSome? (f.declareFault? c settings) := by
  induction params with
  | nil => rfl
  | cons p params ih =>
    simp only [List.map_cons, declareAll, List.findSome?_cons, declareFault?]
    cases (c.strategy f.name p).declare c settings f.name p with
    | error obstacle => rfl
    | ok d => exact ih

theorem declareFault?_direct {p : Param} (h : c.strategy f.name p = .direct) :
    f.declareFault? c settings p =
      if p.isDoublePointer then some (f.unsupported p.name .doublePointer) else none := by
  unfold declareFault? Strategy.declare Strategy.declareDirect
  rw [h]
  cases p.isDoublePointer <;> rfl

theorem declareFault?_mapMemory {p : Param} {range : MappedRange}
    (h : c.strategy f.name p = .mapMemory range) :
    f.declareFault? c settings p =
      if !p.isPointer then some (f.unsupported p.name .mappingNotThroughPointer) else none := by
  unfold declareFault? Strategy.declare Strategy.declareRange
  rw [h]
  cases p.isPointer <;> rfl

/-- A struct that the catalog chooses is never an obstacle, so the requirements say nothing of it. -/
theorem declareFault?_structIn {p : Param} (h : c.strategy f.name p = .structIn) :
    f.declareFault? c settings p = none := by
  unfold declareFault? Strategy.declare
  simp only [h, Strategy.declareStruct_of_chosen settings h]

theorem strategy_verdict (p : Param) :
    Verdict f.name (f.strategyRequirements c p) (f.declareFault? c settings p) := by
  cases h : c.strategy f.name p with
  | direct =>
    rw [declareFault?_direct f c settings h]
    apply Verdict.met (by simp [h])
    exact .guard (by simp [h]) ⟨rfl, rfl, rfl⟩ .nil
  | structIn =>
    rw [declareFault?_structIn f c settings h]
    apply Verdict.met (by simp [h])
    exact .met (by simp [h]) .nil
  | mapMemory range =>
    rw [declareFault?_mapMemory f c settings h]
    refine Verdict.guard (by simp [h]) ⟨rfl, rfl, rfl⟩ ?_
    exact .met (by simp [h]) .nil

theorem attempt_fault :
    (f.attempt c settings).fault? =
      (f.refusal? c settings <|> (f.declareAll c settings (f.chosen c)).2) := by
  rcases f.attempt_cases c settings with
    ⟨fault, refused, attempted⟩ | ⟨ds, fault, admitted, outcome, attempted⟩ |
      ⟨ds, admitted, outcome, attempted⟩
  · rw [attempted, refused]
    rfl
  · rw [attempted, admitted, outcome]
    rfl
  · rw [attempted, admitted, outcome]
    rfl

/-- The two validations and the declarations together go through the checklist. -/
theorem attempt_verdict : Verdict f.name (f.checklist c settings) (f.attempt c settings).fault? := by
  have locals := f.locals_verdict c settings [] f.params [] (by simp)
  have declared := Verdict.findSome? (f.strategy_verdict c settings) f.params
  rw [← f.declareAll_fault] at declared
  rw [attempt_fault]
  exact ((f.signature_verdict settings).append locals).append declared

end HostFunction

/-- Emission is decided by the checklist alone, and always comes to a result. -/
theorem Generator.emit_decided (g : Generator) (f : HostFunction) :
    ((∃ text, (g.emit f).result = .ok text) ↔ ∀ r ∈ f.checklist g.catalog g.settings, r.met) ∧
      ∀ fault, (g.emit f).result = .error fault →
        ∃ r, Requirement.FirstUnmet (f.checklist g.catalog g.settings) r ∧
          r.ReportedBy f.name fault := by
  have verdict := f.attempt_verdict g.catalog g.settings
  rw [emit_result]
  unfold Attempt.fault? at verdict
  cases outcome : (f.attempt g.catalog g.settings).result with
  | ok text =>
    rw [outcome] at verdict
    refine ⟨⟨fun _ => verdict.all_met rfl, fun _ => ⟨text, rfl⟩⟩, ?_⟩
    intro fault impossible
    cases impossible
  | error fault =>
    rw [outcome] at verdict
    obtain ⟨r, first, reported⟩ := verdict.first_unmet rfl
    constructor
    · constructor
      · rintro ⟨text, impossible⟩
        cases impossible
      · intro all
        obtain ⟨before, after, split, _, broken⟩ := first
        exact absurd (all r (by simp [split])) broken
    · intro other same
      cases same
      exact ⟨r, first, reported⟩

end HostCall
