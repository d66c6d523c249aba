import HostCall.Proofs.Tables
import HostCall.Toml.Record
import Mathlib.Data.List.Forall2

/-!
Records that are read from tables. What a record reads from a table depends on what the table has
under each key, and not on the order of the keys; a record that cannot be read fails for one of its
own faults.
-/
namespace HostCall.Toml

variable {σ α : Type} {fields : List (Field Item σ)} {entries : Entries}
  {values : String → Option Item}

theorem readEntries_cons {x : String × Item} {field : Field Item σ} {draft : σ}
    (known : Field.named? fields x.1 = some field) :
    readEntries fields (x :: entries) draft =
      field.read x.2 draft >>= readEntries fields entries := by
  rw [readEntries, known]

/-- `part names` is the draft that has the values of the keys with these names. -/
theorem readEntries_represents (part : (String → Bool) → σ) (h : entries.Represents values)
    (each : ∀ k item, values k = some item → ∃ field, Field.named? fields k = some field ∧
      ∀ names, field.read item (part names) = .ok (part fun n => names n || n == k)) :
    readEntries fields entries (part fun _ => false) = .ok (part fun k => (values k).isSome) := by
  have all (rest : Entries) (listed : ∀ x ∈ rest, values x.1 = some x.2) (names : String → Bool) :
      readEntries fields rest (part names) =
        .ok (part fun n => names n || (rest.map (·.1)).contains n) := by
    induction rest generalizing names with
    | nil => simp [readEntries]
    | cons x rest ih =>
      obtain ⟨first, others⟩ := List.forall_mem_cons.1 listed
      obtain ⟨field, known, read⟩ := each x.1 x.2 first
      have later := ih others fun n => names n || n == x.1
      rw [readEntries_cons known, read]
      refine later.trans ?_
      simp only [List.map_cons, List.contains_cons, Bool.or_assoc]
  have present (k : String) : (entries.map (·.1)).contains k = (values k).isSome := by
    rw [← h.get, Bool.eq_iff_iff, List.contains_iff_mem, Option.isSome_iff_ne_none, ne_eq,
      Entries.get?_eq_none_iff, Classical.not_not]
  have read := all entries (fun x => h.mem_iff.1) fun _ => false
  simpa only [Bool.false_or, present] using read

/-- A record fails for a fault of one of its values, if none of them has another. -/
theorem readEntries_error {Fault : Refusal → Prop} (h : entries.Represents values)
    (each : ∀ k item, values k = some item → ∃ field, Field.named? fields k = some field ∧
      ∀ draft, (∃ next, field.read item draft = .ok next) ∨
        ∃ e, field.read item draft = .error e ∧ Fault e)
    (bad : ∃ k item field, values k = some item ∧ Field.named? fields k = some field ∧
      ∀ draft, ∃ e, field.read item draft = .error e) (draft : σ) :
    ∃ e, readEntries fields entries draft = .error e ∧ Fault e := by
  have some_bad : ∃ x ∈ entries, ∃ field, Field.named? fields x.1 = some field ∧
      ∀ draft, ∃ e, field.read x.2 draft = .error e := by
    obtain ⟨k, item, field, value, known, fails⟩ := bad
    exact ⟨(k, item), h.mem_iff.2 value, field, known, fails⟩
  have listed : ∀ x ∈ entries, values x.1 = some x.2 := fun x => h.mem_iff.1
  clear h bad
  induction entries generalizing draft with
  | nil => simp at some_bad
  | cons x entries ih =>
    obtain ⟨first, others⟩ := List.forall_mem_cons.1 listed
    obtain ⟨field, known, outcome⟩ := each x.1 x.2 first
    rw [readEntries_cons known]
    rcases outcome draft with ⟨next, read⟩ | ⟨e, failed, fault⟩
    · rw [read]
      obtain ⟨y, member, field', known', fails⟩ := some_bad
      rcases List.mem_cons.1 member with rfl | later
      · rw [known] at known'
        cases known'
        obtain ⟨e, failed⟩ := fails draft
        rw [read] at failed
        cases failed
      · exact ih next ⟨y, later, field', known', fails⟩ others
    · rw [failed]
      exact ⟨e, rfl, fault⟩

section OfReader

variable {name : String} {isRead : σ → Bool} {read : Item → Reading α} {set : σ → α → σ}
  {optional : Bool} {item : Item}

theorem read_ofReader {x : α} (h : read item = .ok x) (draft : σ) :
    (Field.ofReader name isRead read set optional).read item draft = .ok (set draft x) := by
  simp only [Field.ofReader, h, Except.map]

theorem read_ofReader_error {e : Refusal} (h : read item = .error e) (draft : σ) :
    (Field.ofReader name isRead read set optional).read item draft = .error e := by
  simp only [Field.ofReader, h, Except.map]

theorem read_ofReader_cases {Fault : Refusal → Prop} {Has : α → Prop}
    (h : (∃ x, read item = .ok x ∧ Has x) ∨ ∃ e, read item = .error e ∧ Fault e) (draft : σ) :
    (∃ next, (Field.ofReader name isRead read set optional).read item draft = .ok next) ∨
      ∃ e, (Field.ofReader name isRead read set optional).read item draft = .error e ∧ Fault e := by
  rcases h with ⟨x, found, _⟩ | ⟨e, failed, fault⟩
  · exact .inl ⟨_, read_ofReader found draft⟩
  · exact .inr ⟨e, read_ofReader_error failed draft, fault⟩

end OfReader

/-- What a table of strings has under its keys. -/
def strings (keys : List String) (s : String → Option String) : String → Option Item :=
  fun k => if k ∈ keys then (s k).map .string else none

theorem strings_eq_some {keys : List String} {s : String → Option String} {k : String} {item : Item}
    (h : strings keys s k = some item) : k ∈ keys ∧ ∃ v, s k = some v ∧ item = .string v := by
  unfold strings at h
  split at h
  · rename_i listed
    obtain ⟨v, value, rfl⟩ := Option.map_eq_some_iff.1 h
    exact ⟨listed, v, value, rfl⟩
  · cases h

theorem named?_of_mem {k : String} (listed : k ∈ fields.map (·.name)) :
    ∃ field ∈ fields, field.name = k ∧ Field.named? fields k = some field := by
  unfold Field.named?
  obtain ⟨field, member, same⟩ := List.mem_map.1 listed
  cases found : fields.find? (·.name == k) with
  | none =>
    have other := List.find?_eq_none.1 found field member
    exact absurd (beq_iff_eq.2 same) other
  | some first =>
    have named := List.find?_some found
    exact ⟨first, List.mem_of_find?_eq_some found, eq_of_beq named, rfl⟩

/-- A record of strings is the draft that `draft` makes of the strings that are stated. -/
theorem readEntries_strings (draft : (String → Option String) → σ) {s : String → Option String}
    (h : entries.Represents (strings (fields.map (·.name)) s))
    (reads : ∀ field ∈ fields, ∀ t v, field.read (.string v) (draft t) =
      .ok (draft fun k => if k = field.name then some v else t k))
    (congr : ∀ t u, (∀ k ∈ fields.map (·.name), t k = u k) → draft t = draft u) :
    readEntries fields entries (draft fun _ => none) = .ok (draft s) := by
  let part := fun names : String → Bool => draft fun k => if names k then s k else none
  have read := readEntries_represents part h fun k item value => by
    obtain ⟨listed, v, stated, rfl⟩ := strings_eq_some value
    obtain ⟨field, member, rfl, known⟩ := named?_of_mem listed
    refine ⟨field, known, fun names => ?_⟩
    rw [reads field member]
    congr 2
    funext k
    by_cases same : k = field.name
    · simp [same, stated]
    · simp [same]
  refine read.trans (congrArg Except.ok (congr _ _ fun k listed => ?_))
  simp only [strings, if_pos listed, Option.isSome_map]
  cases s k <;> rfl

theorem readRecord_table (expected : String) (finish : σ → Reading α) (origin : Origin)
    {start draft : σ} (read : readEntries fields entries start = .ok draft) :
    readRecord expected fields start finish (.table origin entries) = finish draft := by
  rw [readRecord, read]
  rfl

/-- What `readEntries_strings` says of the entries, for the record. -/
theorem readRecord_strings (expected : String) (draft : (String → Option String) → σ)
    (finish : σ → Reading α) (origin : Origin) {s : String → Option String}
    (h : entries.Represents (strings (fields.map (·.name)) s))
    (reads : ∀ field ∈ fields, ∀ t v, field.read (.string v) (draft t) =
      .ok (draft fun k => if k = field.name then some v else t k))
    (congr : ∀ t u, (∀ k ∈ fields.map (·.name), t k = u k) → draft t = draft u) :
    readRecord expected fields (draft fun _ => none) finish (.table origin entries) =
      finish (draft s) :=
  readRecord_table expected finish origin (readEntries_strings draft h reads congr)

theorem readRecord_table_error (expected : String) (finish : σ → Reading α) (origin : Origin)
    {start : σ} {e : Refusal} (failed : readEntries fields entries start = .error e) :
    readRecord expected fields start finish (.table origin entries) = .error e := by
  rw [readRecord, failed]
  rfl

theorem readList_strings (items : List String) :
    readList readString (.array (items.map .string)) = .ok items := by
  change (items.map Item.string).mapM readString = .ok items
  induction items with
  | nil => rfl
  | cons s items ih =>
    rw [List.map_cons, List.mapM_cons, ih]
    rfl

end HostCall.Toml

namespace HostCall

/-- A refusal because of a key that has to be there and is left out. -/
def Lacks (leftOut : List String) (e : Refusal) : Prop :=
  ∃ key ∈ leftOut, e = .mismatch (.missingField key)

theorem Lacks.mono {fewer more : List String} {e : Refusal} (h : Lacks fewer e)
    (all : ∀ key ∈ fewer, key ∈ more) : Lacks more e := by
  obtain ⟨key, listed, same⟩ := h
  exact ⟨key, all key listed, same⟩

/-- The keys of these that are left out. -/
def leftOut (keys : List String) (s : String → Option String) : List String :=
  keys.filter fun key => (s key).isNone

namespace Reading

variable {α β γ : Type}

/-- A reading that gives what it should, or fails because of what is left out. -/
def Completes (leftOut : List String) (Has : α → Prop) (reading : Reading α) : Prop :=
  (∃ x, reading = .ok x ∧ leftOut = [] ∧ Has x) ∨ ∃ e, reading = .error e ∧ Lacks leftOut e

theorem Completes.mono {fewer more : List String} {Has : α → Prop} {reading : Reading α}
    (h : Completes fewer Has reading) (all : ∀ key ∈ fewer, key ∈ more) :
    (∃ x, reading = .ok x ∧ Has x) ∨ ∃ e, reading = .error e ∧ Lacks more e := by
  rcases h with ⟨x, read, _, has⟩ | ⟨e, failed, lacks⟩
  · exact .inl ⟨x, read, has⟩
  · exact .inr ⟨e, failed, lacks.mono all⟩

theorem completes_require {key : String} {keys : List String} {s : String → Option String}
    {Has : α → Prop} {next : String → Reading α}
    (present : ∀ x, s key = some x → Completes (leftOut keys s) Has (next x)) :
    Completes (leftOut (key :: keys) s) Has (require key (s key) >>= next) := by
  cases stated : s key with
  | none => exact .inr ⟨_, rfl, key, by simp [leftOut, stated], rfl⟩
  | some x =>
    have same : leftOut (key :: keys) s = leftOut keys s := by simp [leftOut, stated]
    rw [same]
    exact present x stated

theorem completes_mapM {read : β → Reading α} {leftOut : γ → List String} {Has : γ → α → Prop}
    {stated : List γ} {items : List β}
    (each : List.Forall₂ (fun s item => Completes (leftOut s) (Has s) (read item)) stated items) :
    Completes (stated.flatMap leftOut) (List.Forall₂ Has stated) (items.mapM read) := by
  induction each with
  | nil => exact .inl ⟨[], rfl, rfl, .nil⟩
  | @cons s item stated items first _ ih =>
    rw [List.mapM_cons, List.flatMap_cons]
    rcases first with ⟨x, read, none, has⟩ | ⟨e, failed, lacks⟩
    · rw [read, none, List.nil_append]
      rcases ih with ⟨xs, rest, others, all⟩ | ⟨e, failed, lacks⟩
      · exact .inl ⟨x :: xs, by rw [rest]; rfl, others, .cons has all⟩
      · exact .inr ⟨e, by rw [failed]; rfl, lacks⟩
    · rw [failed]
      exact .inr ⟨e, rfl, lacks.mono fun key => List.mem_append_left _⟩

end Reading

end HostCall
