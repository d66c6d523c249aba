import HostCall.Proofs.ObjectRecord
import HostCall.Proofs.ValuePlaces

/-!
What readers report of fields that are missing. Where nothing else is wrong, a list or a record is
read unless a part of it, or the record itself, lacks a field; the first part in the text that does
is the one reported, and a record comes behind its parts.
-/
namespace HostCall

open Json

/-- A reading that fails for this missing field, or does not fail. -/
inductive Reports {α : Type} : Reading α → Option String → Prop
  | value (a : α) : Reports (.ok a) none
  | missing (name : String) : Reports (.mismatch (.missingField name)) (some name)

section Readings

variable {α β : Type} {x : Reading α} {f : α → Reading β} {first second : Option String}

theorem Reports.bind (h : Reports x first) (next : ∀ a, x = .ok a → Reports (f a) second) :
    Reports (x >>= f) (first.or second) := by
  cases h with
  | value a => exact next a rfl
  | missing name => exact .missing name

theorem Reports.map {f : α → β} (h : Reports x first) : Reports (x.map f) first := by
  cases h with
  | value a => exact .value (f a)
  | missing name => exact .missing name

theorem Reports.exists_ok_iff (h : Reports x first) : (∃ a, x = .ok a) ↔ first = none := by
  cases h with
  | value a => exact ⟨fun _ => rfl, fun _ => ⟨a, rfl⟩⟩
  | missing name => exact ⟨nofun, nofun⟩

theorem Reports.eq_missing {name : String} (h : Reports x (some name)) :
    x = .mismatch (.missingField name) := by
  cases h
  rfl

theorem reports_require {name : String} {rest : List String} {has : String → Bool} {o : Option α}
    (read : o.isSome = has name)
    (next : ∀ a, Reports (f a) (rest.find? fun name => !has name)) :
    Reports (Reading.require name o >>= f) ((name :: rest).find? fun name => !has name) := by
  cases o with
  | none =>
    rw [List.find?_cons_of_pos (by simp [← read])]
    exact .missing name
  | some a =>
    rw [List.find?_cons_of_neg (by simp [← read])]
    exact next a

end Readings

theorem findSome?_cons_eq_or {α β : Type} (f : α → Option β) (a : α) (as : List α) :
    (a :: as).findSome? f = (f a).or (as.findSome? f) := by
  rw [List.findSome?_cons]
  cases f a <;> rfl

theorem findSome?_nothing {ι α : Type} (xs : List ι) :
    xs.findSome? (fun _ => (none : Option α)) = none :=
  List.findSome?_eq_none_iff.2 fun _ _ => rfl

theorem findSome?_flatMap {ι α β : Type} (f : α → Option β) (g : ι → List α) (xs : List ι) :
    (xs.flatMap g).findSome? f = xs.findSome? fun x => (g x).findSome? f := by
  induction xs with
  | nil => rfl
  | cons x xs ih => rw [List.flatMap_cons, List.findSome?_append, ih, findSome?_cons_eq_or]

namespace Json

/-- Whether a member of an object has this name. -/
def Value.has : Value → String → Bool
  | .object members _, name => members.any (·.1 == some name)
  | _, _ => false

theorem Value.has_ofMembers {members : List (String × Value)} {name : String} :
    (ofMembers members).has name = true ↔ name ∈ members.map (·.1) := by
  simp [ofMembers, has, named]

section Lists

variable {α : Type} {read : Value → Reading α} {report : Place → Option String}

theorem mapM_reports {before : List Token} {items : List Value}
    (each : ∀ q ∈ Place.itemsAfter before items, Reports (read q.value) (report q)) :
    Reports (items.mapM read) ((Place.itemsAfter before items).findSome? report) := by
  induction items generalizing before with
  | nil => exact .value []
  | cons item rest ih =>
    rw [Place.itemsAfter, List.forall_mem_cons] at each
    rw [Place.itemsAfter, findSome?_cons_eq_or, List.mapM_cons]
    refine each.1.bind fun a _ => ?_
    have later := (ih each.2).bind fun others _ => Reports.value (a :: others)
    rwa [Option.or_none] at later

theorem readList_reports {p : Place} {items : List Value} (array : p.value = .array items true)
    (each : ∀ q ∈ p.items, Reports (read q.value) (report q)) :
    Reports (readList read p.value) (p.items.findSome? report) := by
  obtain ⟨before, value⟩ := p
  subst array
  have all := (mapM_reports each).bind fun values _ => Reports.value values
  rwa [Option.or_none] at all

end Lists

section Records

variable {σ α : Type} {fields : List (Field Value σ)} {ms : List Member}
  {report : Option String × Place → Option String}

/-- Reading one of the fields marks it, and no other, as read. -/
def Marks (fields : List (Field Value σ)) : Prop :=
  ∀ field ∈ fields, ∀ v before after, field.read v before = .ok after →
    ∀ other ∈ fields, other.isRead after = (other.isRead before || other.name == field.name)

def Tells (report : Option String × Place → Option String) (field : Field Value σ)
    (m : Member) : Prop :=
  ∀ p draft, m.Allows p.value → Reports (field.read p.value draft) (report (some m.name, p))

/-- How a record's fields report what is missing inside the members of an object. -/
structure Reporting (fields : List (Field Value σ)) (ms : List Member)
    (report : Option String × Place → Option String) : Prop where
  marks : Marks fields
  reads : List.Forall₂ (fun field m => field.name = m.name ∧ Tells report field m) fields ms
  unknown : ∀ name p, (∀ m ∈ ms, m.name ≠ name) → report (some name, p) = none

theorem tells_ofReader {β : Type} {name : String} {isRead : σ → Bool} {read : Value → Reading β}
    {set : σ → β → σ} {optional : Bool} {m : Member}
    (reads : ∀ p : Place, m.Allows p.value → Reports (read p.value) (report (some m.name, p))) :
    Tells report (.ofReader name isRead read set optional) m :=
  fun p _ allowed => (reads p allowed).map

/-- The fields read from an object are those whose names its members have. -/
theorem isRead_of_readMembers (marks : Marks fields) {members : List (Option String × Value)}
    {before after : σ} (read : readMembers fields members before = .ok after) :
    ∀ field ∈ fields,
      field.isRead after = (field.isRead before || members.any (·.1 == some field.name)) := by
  induction members generalizing before with
  | nil =>
    cases read
    simp
  | cons x rest ih =>
    obtain ⟨key, v⟩ := x
    intro field listed
    cases key with
    | none => cases read
    | some key =>
      rw [readMembers] at read
      split at read
      · next other =>
        have differs : key ≠ field.name := fun same =>
          List.find?_eq_none.1 other field listed (by simp [same])
        rw [List.any_cons, beq_false_of_ne (by simpa using differs), Bool.false_or]
        split at read
        · exact ih read field listed
        · cases read
      · next found known =>
        have same : found.name = key := by simpa using List.find?_some known
        split at read
        · cases read
        · obtain ⟨middle, step, others⟩ := Reading.bind_eq_ok.1 read
          have now := marks found (List.mem_of_find?_eq_some known) v before middle step field listed
          rw [ih others field listed, now, same, List.any_cons, Bool.or_assoc]
          simp [Bool.beq_comm]

theorem readMembers_reports (reporting : Reporting fields ms report)
    {members : List (String × Value)} (parts : Value.HasParts ms members) {draft : σ}
    (unread : ∀ field ∈ fields, field.isRead draft = true → field.name ∉ members.map (·.1))
    (before : List Token) :
    Reports (readMembers fields (Value.named members) draft)
      ((Place.membersAfter before (Value.named members)).findSome? report) := by
  -- what is read of a draft has come from members before these, so no field comes twice
  induction members generalizing draft before with
  | nil => exact .value draft
  | cons x rest ih =>
    have tail : Value.HasParts ms rest :=
      parts.restrict (List.sublist_cons_self x rest) (fun _ listed => listed)
        fun _ _ _ listed _ => listed
    rw [Value.named_cons, readMembers, Place.membersAfter, findSome?_cons_eq_or]
    rcases named?_of_forall₂ reporting.reads x.1 with
      ⟨field, m, listed, same, found, tells⟩ | ⟨other, found⟩
    · have known := List.mem_of_find?_eq_some found
      have named : field.name = x.1 := by simpa using List.find?_some found
      have fresh : field.isRead draft ≠ true := fun read =>
        unread field known read (by simp [named])
      have allowed := parts.allowed x (List.mem_cons_self ..) m listed same
      have own := tells ⟨before ++ [.string (some x.1), .colon], x.2⟩ draft allowed
      rw [same] at own
      simp only [found, if_neg fresh]
      refine own.bind fun next step => ih tail ?_ _
      intro sibling here read
      rw [reporting.marks field known x.2 draft next step sibling here, Bool.or_eq_true] at read
      rcases read with earlier | now
      · exact fun member => unread sibling here earlier (List.mem_cons_of_mem x.1 member)
      · rw [eq_of_beq now, named, ← same]
        exact parts.fresh listed same
    · have complete := (parts.unknown x (List.mem_cons_self ..) other).isComplete
      simp only [found, complete, if_true, reporting.unknown x.1 _ other, Option.none_or]
      exact ih tail (fun field known read member =>
        unread field known read (List.mem_cons_of_mem x.1 member)) _

/-- A record reports what its members report, and when they have nothing to report its own first
missing field. -/
theorem readRecord_reports (reporting : Reporting fields ms report) {required : List String}
    {expected : String} {start : σ} {finish : σ → Reading α}
    (unread : ∀ field ∈ fields, field.isRead start = false)
    (closes : ∀ draft (has : String → Bool),
      (∀ field ∈ fields, field.isRead draft = has field.name) →
      Reports (finish draft) (required.find? fun name => !has name))
    {p : Place} (value : p.value.IsObjectOf ms) :
    Reports (readRecord expected fields start finish p.value)
      ((p.members.findSome? report).or (required.find? fun name => !p.value.has name)) := by
  obtain ⟨before, v⟩ := p
  obtain ⟨members, same, parts, _⟩ := value
  dsimp only at same
  subst same
  have members_report := readMembers_reports reporting parts
    (fun field known read => Bool.noConfusion ((unread field known).symm.trans read))
    (before ++ [.openObject])
  refine members_report.bind fun draft read => closes draft _ fun field known => ?_
  rw [isRead_of_readMembers reporting.marks read field known, unread field known, Bool.false_or]
  rfl

/-- A record whose members have nothing to report. -/
theorem readRecord_reports_own (reporting : Reporting fields ms fun _ => none)
    {required : List String} {expected : String} {start : σ} {finish : σ → Reading α}
    (unread : ∀ field ∈ fields, field.isRead start = false)
    (closes : ∀ draft (has : String → Bool),
      (∀ field ∈ fields, field.isRead draft = has field.name) →
      Reports (finish draft) (required.find? fun name => !has name))
    {p : Place} (value : p.value.IsObjectOf ms) :
    Reports (readRecord expected fields start finish p.value)
      (required.find? fun name => !p.value.has name) := by
  have record : Reports (readRecord expected fields start finish p.value) _ :=
    readRecord_reports reporting unread closes value
  rwa [findSome?_nothing, Option.none_or] at record

end Records

end Json

end HostCall
