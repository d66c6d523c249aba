import HostCall.Json.Record
import HostCall.Proofs.ValueText
import Mathlib.Data.List.Forall2
import Mathlib.Data.List.Nodup

/-!
Records that are written as objects. What a record reads from an object depends on which of its
members are there and on what they say, and neither on their order nor on members that it does not
know.
-/
namespace HostCall

theorem Reading.bind_eq_ok {α β : Type} {x : Reading α} {f : α → Reading β} {b : β} :
    x >>= f = .ok b ↔ ∃ a, x = .ok a ∧ f a = .ok b := by
  cases x with
  | error e => exact ⟨nofun, nofun⟩
  | ok a => exact ⟨fun h => ⟨a, rfl, h⟩, fun ⟨_, same, h⟩ => Except.ok.inj same ▸ h⟩

theorem Reading.map_eq_ok {α β : Type} {x : Reading α} {f : α → β} {b : β} :
    x.map f = .ok b ↔ ∃ a, x = .ok a ∧ f a = b := by
  cases x with
  | error e => exact ⟨nofun, nofun⟩
  | ok a =>
    constructor
    · exact fun h => ⟨a, rfl, Except.ok.inj h⟩
    · rintro ⟨_, same, h⟩
      cases same
      exact congrArg Except.ok h

namespace Json

/-- What an object that stands for a record has under a name. -/
structure Member where
  name : String
  Allows : Value → Prop
  /-- Whether the object may be without the member. -/
  MayLack : Prop

namespace Value

def text (s : String) : Value := .string (some s)

inductive IsScalar : Value → Prop
  | null : IsScalar .null
  | bool (value : Bool) : IsScalar (.bool value)
  | text (s : String) : IsScalar (text s)

/-- The members of an object that has no other than these, apart from scalars of unknown names. -/
structure HasParts (ms : List Member) (members : List (String × Value)) : Prop where
  allowed : ∀ x ∈ members, ∀ m ∈ ms, m.name = x.1 → m.Allows x.2
  unknown : ∀ x ∈ members, (∀ m ∈ ms, m.name ≠ x.1) → x.2.IsScalar
  once : ∀ m ∈ ms, (members.map (·.1)).count m.name ≤ 1

/-- Objects that have these members, in any order, and may have scalars of unknown names. -/
def IsObjectOf (ms : List Member) (v : Value) : Prop :=
  ∃ members, v = ofMembers members ∧ HasParts ms members ∧
    ∀ m ∈ ms, m.name ∉ members.map (·.1) → m.MayLack

theorem refuse_ne_ok {α : Type} {x : α} (expected : String) (v : Value) :
    v.refuse expected ≠ .ok x := by
  unfold refuse
  split <;> exact nofun

theorem IsScalar.isPlain {v : Value} (h : v.IsScalar) : v.IsPlain := by
  cases h with
  | null => exact .null
  | bool value => exact .bool value
  | text s => exact .string s

theorem IsScalar.isComplete {v : Value} (h : v.IsScalar) : v.isComplete = true := by
  cases h with
  | null | bool => rw [Value.isComplete]
  | text s => rw [Value.text, Value.isComplete]

theorem HasParts.all {ms : List Member} {members : List (String × Value)} {P : Value → Prop}
    (h : HasParts ms members) (known : ∀ m ∈ ms, ∀ v, m.Allows v → P v)
    (scalar : ∀ v, IsScalar v → P v) : ∀ x ∈ members, P x.2 := by
  intro x member
  by_cases named : ∃ m ∈ ms, m.name = x.1
  · obtain ⟨m, listed, same⟩ := named
    exact known m listed x.2 (h.allowed x member m listed same)
  · exact scalar x.2 (h.unknown x member fun m listed same => named ⟨m, listed, same⟩)

theorem IsObjectOf.isPlain {ms : List Member} {v : Value} (h : v.IsObjectOf ms)
    (plain : ∀ m ∈ ms, ∀ w, m.Allows w → w.IsPlain) : v.IsPlain := by
  obtain ⟨members, rfl, parts, _⟩ := h
  exact .object (parts.all plain fun _ => IsScalar.isPlain)

/-- An object with all its members, in the order of the record. -/
theorem isObjectOf_ofMembers {ms : List Member} {members : List (String × Value)}
    (distinct : (ms.map (·.name)).Nodup)
    (h : List.Forall₂ (fun m x => m.name = x.1 ∧ m.Allows x.2) ms members) :
    (ofMembers members).IsObjectOf ms := by
  have names : members.map (·.1) = ms.map (·.name) := by
    clear distinct
    induction h with
    | nil => rfl
    | cons first _ ih => rw [List.map_cons, List.map_cons, ih, first.1]
  have own : ∀ x ∈ members, ∃ m ∈ ms, m.name = x.1 ∧ m.Allows x.2 := by
    clear distinct names
    induction h with
    | nil => simp
    | @cons m x ms members first _ ih =>
      refine List.forall_mem_cons.2 ⟨⟨m, List.mem_cons_self .., first⟩, fun y member => ?_⟩
      obtain ⟨n, listed, related⟩ := ih y member
      exact ⟨n, List.mem_cons_of_mem m listed, related⟩
  refine ⟨members, rfl, ⟨?_, ?_, ?_⟩, ?_⟩
  · intro x member m listed same
    obtain ⟨n, known, named, allows⟩ := own x member
    rwa [List.inj_on_of_nodup_map distinct listed known (same.trans named.symm)]
  · intro x member other
    obtain ⟨n, known, named, _⟩ := own x member
    exact absurd named (other n known)
  · intro m _
    rw [names]
    exact List.nodup_iff_count_le_one.1 distinct m.name
  · intro m listed absent
    rw [names] at absent
    exact absurd (List.mem_map_of_mem listed) absent

/-- The parts of a record with fewer members, where they are all that is left of an object. -/
theorem HasParts.restrict {ms less : List Member} {members others : List (String × Value)}
    (h : HasParts ms members) (sub : others.Sublist members) (fewer : ∀ m ∈ less, m ∈ ms)
    (left : ∀ x ∈ others, ∀ m ∈ ms, m.name = x.1 → m ∈ less) : HasParts less others where
  allowed x member m listed := h.allowed x (sub.subset member) m (fewer m listed)
  unknown x member other := h.unknown x (sub.subset member) fun m known same =>
    other m (left x member m known same) same
  once m listed := ((sub.map (·.1)).count_le m.name).trans (h.once m (fewer m listed))

/-- The same members, with another say in what they allow. -/
theorem HasParts.reinterpret {ms others : List Member} {members : List (String × Value)}
    (h : HasParts ms members) (names : others.map (·.name) = ms.map (·.name))
    (allowed : ∀ x ∈ members, ∀ m ∈ others, m.name = x.1 → m.Allows x.2) :
    HasParts others members where
  allowed := allowed
  unknown x member other := h.unknown x member fun m listed same => by
    have known : m.name ∈ others.map (·.name) := names ▸ List.mem_map_of_mem listed
    obtain ⟨n, here, alike⟩ := List.mem_map.1 known
    exact other n here (alike.trans same)
  once m listed := by
    have known : m.name ∈ ms.map (·.name) := names ▸ List.mem_map_of_mem listed
    obtain ⟨n, here, alike⟩ := List.mem_map.1 known
    exact alike ▸ h.once n here

theorem HasParts.fresh {ms : List Member} {x : String × Value} {members : List (String × Value)}
    (h : HasParts ms (x :: members)) {m : Member} (listed : m ∈ ms) (same : m.name = x.1) :
    m.name ∉ members.map (·.1) := by
  have most := h.once m listed
  rw [List.map_cons, same, List.count_cons_self] at most
  rw [same, ← List.count_eq_zero]
  omega

/-- A member that is there is there once. -/
theorem HasParts.split {ms : List Member} {members : List (String × Value)}
    (h : HasParts ms members) {m : Member} (listed : m ∈ ms)
    (present : m.name ∈ members.map (·.1)) :
    ∃ before v after, members = before ++ (m.name, v) :: after ∧ m.Allows v ∧
      m.name ∉ (before ++ after).map (·.1) := by
  obtain ⟨⟨name, v⟩, member, same⟩ := List.mem_map.1 present
  have named : name = m.name := same
  subst named
  obtain ⟨before, after, rfl⟩ := List.append_of_mem member
  refine ⟨before, v, after, rfl, h.allowed _ member m listed rfl, ?_⟩
  have once := h.once m listed
  rw [List.map_append, List.map_cons, List.count_append, List.count_cons_self] at once
  rw [← List.count_eq_zero, List.map_append, List.count_append]
  omega

theorem value_of_apart {name : String} {v : Value} {before after : List (String × Value)}
    (apart : name ∉ (before ++ after).map (·.1)) {x : String × Value}
    (member : x ∈ before ++ (name, v) :: after) (named : x.1 = name) : x.2 = v := by
  rcases List.mem_append.1 member with earlier | here
  · have present := List.mem_map_of_mem (f := (·.1)) (List.mem_append_left after earlier)
    exact absurd (named ▸ present) apart
  · rcases List.mem_cons.1 here with rfl | later
    · rfl
    · have present := List.mem_map_of_mem (f := (·.1)) (List.mem_append_right before later)
      exact absurd (named ▸ present) apart

end Value

variable {σ α : Type} {fields : List (Field Value σ)} {ms : List Member}
  {part : (String → Bool) → σ} {members : List (String × Value)}

/-- Reading any allowed value of a member completes a draft by it, where `part names` is the draft
that has the members with these names. -/
def FillsIn (part : (String → Bool) → σ) (field : Field Value σ) (m : Member) : Prop :=
  ∀ names v, m.Allows v → names m.name = false →
    field.isRead (part names) = false ∧
      field.read v (part names) = .ok (part fun name => names name || name == m.name)

structure Fills (fields : List (Field Value σ)) (ms : List Member) (part : (String → Bool) → σ) :
    Prop where
  congr : ∀ {names others : String → Bool}, (∀ m ∈ ms, names m.name = others m.name) →
    part names = part others
  reads : List.Forall₂ (fun field m => field.name = m.name ∧ FillsIn part field m) fields ms

/-- What is true of a draft stays true when the field is read. -/
def Keeps (P : σ → Prop) (field : Field Value σ) : Prop :=
  ∀ v before after, P before → field.read v before = .ok after → P after

theorem named?_of_forall₂ {R : Field Value σ → Member → Prop}
    (h : List.Forall₂ (fun field m => field.name = m.name ∧ R field m) fields ms) (name : String) :
    (∃ field, ∃ m ∈ ms, m.name = name ∧ Field.named? fields name = some field ∧ R field m) ∨
      (∀ m ∈ ms, m.name ≠ name) ∧ Field.named? fields name = none := by
  unfold Field.named?
  induction h with
  | nil => exact .inr ⟨by simp, rfl⟩
  | @cons field m fields ms first _ ih =>
    obtain ⟨same, related⟩ := first
    by_cases here : m.name = name
    · exact .inl ⟨field, m, List.mem_cons_self .., here, by simp [same, here], related⟩
    · rw [List.find?_cons_of_neg (by simpa [same] using here)]
      rcases ih with ⟨found, n, listed, rest⟩ | ⟨none, rest⟩
      · exact .inl ⟨found, n, List.mem_cons_of_mem m listed, rest⟩
      · exact .inr ⟨List.forall_mem_cons.2 ⟨here, none⟩, rest⟩

theorem readMembers_parts (fills : Fills fields ms part) (parts : Value.HasParts ms members)
    (names : String → Bool)
    (fresh : ∀ m ∈ ms, names m.name = true → m.name ∉ members.map (·.1)) :
    readMembers fields (Value.named members) (part names) =
      .ok (part fun name => names name || (members.map (·.1)).contains name) := by
  -- `names` are those of the members that came before these
  induction members generalizing names with
  | nil =>
    exact congrArg Except.ok (fills.congr fun m _ => by simp)
  | cons x members ih =>
    have tail : Value.HasParts ms members :=
      parts.restrict (List.sublist_cons_self x members) (fun _ listed => listed)
        fun _ _ _ listed _ => listed
    rw [Value.named_cons, readMembers]
    rcases named?_of_forall₂ fills.reads x.1 with
      ⟨field, m, listed, same, found, reads⟩ | ⟨other, found⟩
    · have absent : names m.name = false := by
        by_contra present
        exact fresh m listed (by simpa using present) (by simp [same])
      obtain ⟨unread, step⟩ := reads names x.2
        (parts.allowed x (List.mem_cons_self ..) m listed same) absent
      have later := ih tail (fun name => names name || name == m.name) (by
        intro n known seen
        rcases Bool.or_eq_true_iff.1 seen with before | now
        · exact fun member => fresh n known before (List.mem_cons_of_mem x.1 member)
        · rw [eq_of_beq now]
          exact parts.fresh listed same)
      simp only [found, unread, step, Bool.false_eq_true, if_false]
      refine later.trans (congrArg Except.ok (fills.congr fun n _ => ?_))
      simp only [List.map_cons, List.contains_cons, same, Bool.or_assoc]
    · have complete := (parts.unknown x (List.mem_cons_self ..) other).isComplete
      have later := ih tail names fun n known seen member =>
        fresh n known seen (List.mem_cons_of_mem x.1 member)
      simp only [found, complete, if_true]
      refine later.trans (congrArg Except.ok (fills.congr fun n known => ?_))
      have differs : (n.name == x.1) = false := by simpa using other n known
      simp only [List.map_cons, List.contains_cons, differs, Bool.false_or]

/-- A record reads from an object what the members that are there fill in. -/
theorem readRecord_parts (fills : Fills fields ms part) (parts : Value.HasParts ms members)
    (expected : String) (finish : σ → Reading α) :
    readRecord expected fields (part fun _ => false) finish (Value.ofMembers members) =
      finish (part (members.map (·.1)).contains) := by
  have read := readMembers_parts fills parts (fun _ => false) (by simp)
  simp only [Bool.false_or] at read
  rw [Value.ofMembers, readRecord, read]
  rfl

/-- The value of a member, if it is among those with these names. -/
def given {β : Type} (names : String → Bool) (name : String) (x : β) : Option β :=
  if names name then some x else none

section Given

variable {β : Type} {names : String → Bool} {name : String} {x : β}

theorem isSome_given : (given names name x).isSome = names name := by
  unfold given
  cases names name <;> rfl

theorem given_of_present (present : names name = true) : given names name x = some x :=
  if_pos present

theorem getD_given {default : β} (absent : names name = false → x = default) :
    (given names name x).getD default = x := by
  unfold given
  cases there : names name with
  | true => rfl
  | false => exact (absent there).symm

end Given

section FillsIn

variable {β : Type} {name : String} {isRead : σ → Bool} {read : Value → Reading β}
  {set : σ → β → σ} {optional : Bool}

theorem fillsIn_ofReader {m : Member} (same : m.name = name)
    (known : ∀ names, isRead (part names) = names name)
    (reads : ∀ v, m.Allows v → ∃ x, read v = .ok x ∧ ∀ names,
      set (part names) x = part fun n => names n || n == name) :
    FillsIn part (.ofReader name isRead read set optional) m := by
  subst same
  intro names v allowed absent
  obtain ⟨x, value, filled⟩ := reads v allowed
  refine ⟨(known names).trans absent, ?_⟩
  simp only [Field.ofReader, value, ← filled names]
  rfl

/-- A member that is written in one way. -/
theorem fillsIn_fixed {v : Value} {x : β} {mayLack : Prop} (value : read v = .ok x)
    (known : ∀ names, isRead (part names) = names name)
    (filled : ∀ names, set (part names) x = part fun n => names n || n == name) :
    FillsIn part (.ofReader name isRead read set optional) ⟨name, (· = v), mayLack⟩ := by
  refine fillsIn_ofReader rfl known ?_
  rintro _ rfl
  exact ⟨x, value, filled⟩

theorem keeps_ofReader {P : σ → Prop} (kept : ∀ v x d, read v = .ok x → P d → P (set d x)) :
    Keeps P (.ofReader name isRead read set optional) := by
  intro v before after holds step
  obtain ⟨x, value, same⟩ := Reading.map_eq_ok.1 step
  rw [← same]
  exact kept v x before value holds

end FillsIn

section Invariants

variable {P : σ → Prop}

theorem readMembers_invariant {rest : List (Option String × Value)} {d result : σ}
    (keeps : ∀ field ∈ fields, Keeps P field)
    (start : P d) (read : readMembers fields rest d = .ok result) : P result := by
  induction rest generalizing d with
  | nil =>
    cases read
    exact start
  | cons x rest ih =>
    obtain ⟨key, v⟩ := x
    cases key with
    | none => cases read
    | some key =>
      rw [readMembers] at read
      split at read
      · split at read
        · exact ih start read
        · cases read
      · next field known =>
        split at read
        · cases read
        · obtain ⟨next, step, rest⟩ := Reading.bind_eq_ok.1 read
          exact ih (keeps field (List.mem_of_find?_eq_some known) v d next start step) rest

theorem readItems_invariant {expected : String} {whole : Bool} {position : Nat}
    {items others : List Value} {d result : σ}
    (keeps : ∀ field ∈ fields, Keeps P field)
    (start : P d)
    (read : Field.readItems expected whole position fields items d = .ok (result, others)) :
    P result := by
  induction fields generalizing position items d with
  | nil =>
    rw [Field.readItems] at read
    cases read
    exact start
  | cons field fields ih =>
    obtain ⟨first, later⟩ := List.forall_mem_cons.1 keeps
    cases items with
    | nil =>
      rw [Field.readItems] at read
      split at read
      · cases read
      · split at read
        · exact ih later start read
        · cases read
    | cons item items =>
      rw [Field.readItems] at read
      obtain ⟨next, step, rest⟩ := Reading.bind_eq_ok.1 read
      exact ih later (first item d next start step) rest

/-- What every field keeps of a draft, the record that comes of it has. -/
theorem readRecord_invariant {Q : α → Prop} {expected : String} {start : σ}
    {finish : σ → Reading α} {v : Value} {result : α}
    (keeps : ∀ field ∈ fields, Keeps P field)
    (closes : ∀ d x, P d → finish d = .ok x → Q x) (holds : P start)
    (read : readRecord expected fields start finish v = .ok result) : Q result := by
  unfold readRecord at read
  split at read
  · obtain ⟨d, inside, finished⟩ := Reading.bind_eq_ok.1 read
    split at finished
    · exact closes d result (readMembers_invariant keeps holds inside) finished
    · cases finished
  · obtain ⟨⟨d, others⟩, inside, finished⟩ := Reading.bind_eq_ok.1 read
    dsimp only at finished
    split at finished
    · exact closes d result (readItems_invariant keeps holds inside) finished
    · cases finished
  · exact absurd read (Value.refuse_ne_ok _ _)

end Invariants

theorem mapM_eq_ok_iff {β : Type} {read : β → Reading α} {items : List β} {xs : List α} :
    items.mapM read = .ok xs ↔ List.Forall₂ (fun x v => read v = .ok x) xs items := by
  induction items generalizing xs with
  | nil =>
    rw [List.mapM_nil, List.forall₂_nil_right_iff]
    exact ⟨fun h => (Except.ok.inj h).symm, fun h => congrArg Except.ok h.symm⟩
  | cons item items ih =>
    rw [List.mapM_cons, List.forall₂_cons_right_iff]
    constructor
    · intro h
      obtain ⟨x, first, rest⟩ := Reading.bind_eq_ok.1 h
      obtain ⟨others, rest, same⟩ := Reading.bind_eq_ok.1 rest
      exact ⟨x, others, first, ih.1 rest, (Except.ok.inj same).symm⟩
    · rintro ⟨x, others, first, rest, rfl⟩
      rw [first, ih.2 rest]
      rfl

/-- A list is read from an array whose items are read one by one. -/
theorem readList_eq_ok_iff {read : Value → Reading α} {v : Value} {xs : List α} :
    readList read v = .ok xs ↔
      ∃ items, v = .array items true ∧ List.Forall₂ (fun x v => read v = .ok x) xs items := by
  constructor
  · intro h
    unfold readList at h
    split at h
    · next items closed =>
      obtain ⟨values, all, ended⟩ := Reading.bind_eq_ok.1 h
      split at ended
      · next complete =>
        cases ended
        exact ⟨items, by rw [complete], mapM_eq_ok_iff.1 all⟩
      · cases ended
    · exact absurd h (Value.refuse_ne_ok _ _)
  · rintro ⟨items, rfl, related⟩
    rw [readList, mapM_eq_ok_iff.2 related]
    rfl

theorem mem_readList {read : Value → Reading α} {v : Value} {xs : List α}
    (h : readList read v = .ok xs) : ∀ x ∈ xs, ∃ item, read item = .ok x := by
  obtain ⟨items, rfl, related⟩ := readList_eq_ok_iff.1 h
  clear h
  induction related with
  | nil => simp
  | @cons x item xs items first _ ih => exact List.forall_mem_cons.2 ⟨⟨item, first⟩, ih⟩

/-- A list is read from items that are each written as one of its values may be. -/
theorem exists_readList {read : Value → Reading α} {Writes : α → Value → Prop} {norm : α → α}
    {xs : List α} {items : List Value} (written : List.Forall₂ Writes xs items)
    (each : ∀ x ∈ xs, ∀ v, Writes x v → ∃ y, read v = .ok y ∧ norm y = x) :
    ∃ ys, readList read (.array items true) = .ok ys ∧ ys.map norm = xs := by
  suffices found : ∃ ys, List.Forall₂ (fun y v => read v = .ok y) ys items ∧ ys.map norm = xs by
    obtain ⟨ys, related, same⟩ := found
    exact ⟨ys, readList_eq_ok_iff.2 ⟨items, rfl, related⟩, same⟩
  induction written with
  | nil => exact ⟨[], .nil, rfl⟩
  | @cons x v xs items first _ ih =>
    obtain ⟨here, others⟩ := List.forall_mem_cons.1 each
    obtain ⟨y, value, same⟩ := here v first
    obtain ⟨ys, related, rest⟩ := ih others
    exact ⟨y :: ys, .cons value related, by rw [List.map_cons, same, rest]⟩

theorem isPlain_array {Writes : α → Value → Prop} {xs : List α} {items : List Value}
    (written : List.Forall₂ Writes xs items) (each : ∀ x v, Writes x v → v.IsPlain) :
    (Value.array items true).IsPlain := by
  apply Value.IsPlain.array
  induction written with
  | nil => simp
  | cons first _ ih => exact List.forall_mem_cons.2 ⟨each _ _ first, ih⟩

end Json

end HostCall
