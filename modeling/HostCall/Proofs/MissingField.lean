import HostCall.Proofs.DescriptorText
import HostCall.Proofs.Sketches

/-!
Which missing member is reported of a descriptor file: of the record that is closed first among
those that lack something, the first one in the order in which it declares its members.
-/
namespace HostCall

open Json

section Words

variable {v : Value}

theorem reports_text (h : v.IsText) : Reports (readString v) none := by
  obtain ⟨s, rfl⟩ := h
  exact .value s

theorem reports_flag (h : v.IsFlag) : Reports (readBool v) none := by
  obtain ⟨b, rfl⟩ := h
  exact .value b

theorem Category.reports_word (h : ∃ c : Category, v.SaysWord c.keyword) :
    Reports (ofValue v) none := by
  obtain ⟨c, rfl | rfl⟩ := h
  · rw [c.ofValue_keyword]
    exact .value c
  · cases c <;> exact .value _

theorem CallStatus.reports_word {s : CallStatus} (h : v.SaysWord s.keyword) :
    Reports (readNullable ofValue v) none := by
  rcases h with rfl | rfl
  · have word : readNullable ofValue (.text s.keyword) = .ok (some s) :=
      Reading.map_eq_ok.2 ⟨s, s.ofValue_keyword, rfl⟩
    rw [word]
    exact .value (some s)
  · cases s <;> exact .value _

end Words

namespace TypeEntry

theorem reporting : Reporting fields sketch fun _ => none where
  marks := by
    simp only [Marks, fields, Field.ofReader, List.forall_mem_cons, Reading.map_eq_ok]
    refine ⟨?_, ?_, by simp⟩
    all_goals
      rintro v before _ ⟨x, _, rfl⟩
      simp
  reads := by
    refine .cons ⟨rfl, ?_⟩ (.cons ⟨rfl, ?_⟩ .nil)
    · exact tells_ofReader fun p => reports_text
    · exact tells_ofReader fun p => Category.reports_word
  unknown _ _ _ := rfl

theorem ofDraft_reports {draft : TypeDraft} {has : String → Bool}
    (read : ∀ field ∈ fields, field.isRead draft = has field.name) :
    Reports (ofDraft draft) ((RecordKind.required .type).find? fun name => !has name) := by
  simp only [fields, Field.ofReader, List.forall_mem_cons] at read
  obtain ⟨name, category, _⟩ := read
  exact reports_require name fun _ => reports_require category fun _ => .value _

theorem ofValue_reports {p : Place} (shape : p.value.IsObjectOf sketch) :
    Reports (ofValue p.value) (Record.missing? ⟨p, .type⟩) := by
  have unread : ∀ field ∈ fields, field.isRead {} = false := by simp [fields, Field.ofReader]
  exact readRecord_reports_own reporting unread (fun _ _ => ofDraft_reports) shape

end TypeEntry

namespace Param

theorem reporting : Reporting fields sketch fun _ => none where
  marks := by
    simp only [Marks, fields, Field.ofReader, List.forall_mem_cons, Reading.map_eq_ok]
    refine ⟨?_, ?_, ?_, ?_, ?_, ?_, by simp⟩
    all_goals
      rintro v before _ ⟨x, _, rfl⟩
      simp
  reads := by
    refine .cons ⟨rfl, ?_⟩ (.cons ⟨rfl, ?_⟩ (.cons ⟨rfl, ?_⟩ (.cons ⟨rfl, ?_⟩ (.cons ⟨rfl, ?_⟩
      (.cons ⟨rfl, ?_⟩ .nil)))))
    · exact tells_ofReader fun p => reports_text
    · exact tells_ofReader fun p => reports_text
    · exact tells_ofReader fun p => reports_flag
    · exact tells_ofReader fun p => reports_flag
    · exact tells_ofReader fun p => reports_text
    · exact tells_ofReader fun p => reports_text
  unknown _ _ _ := rfl

theorem ofDraft_reports {draft : ParamDraft} {has : String → Bool}
    (read : ∀ field ∈ fields, field.isRead draft = has field.name) :
    Reports (ofDraft draft) ((RecordKind.required .param).find? fun name => !has name) := by
  simp only [fields, Field.ofReader, List.forall_mem_cons] at read
  obtain ⟨name, type, _, _, guestValue, _⟩ := read
  exact reports_require name fun _ => reports_require type fun _ =>
    reports_require guestValue fun _ => .value _

theorem ofValue_reports {p : Place} (shape : p.value.IsObjectOf sketch) :
    Reports (ofValue p.value) (Record.missing? ⟨p, .param⟩) := by
  have unread : ∀ field ∈ fields, field.isRead {} = false := by simp [fields, Field.ofReader]
  exact readRecord_reports_own reporting unread (fun _ _ => ofDraft_reports) shape

end Param

namespace Signature

theorem reporting : Reporting fields sketch fun _ => none where
  marks := by
    simp only [Marks, fields, Field.ofReader, List.forall_mem_cons, Reading.map_eq_ok]
    refine ⟨?_, ?_, ?_, by simp⟩
    all_goals
      rintro v before _ ⟨x, _, rfl⟩
      simp
  reads := by
    refine .cons ⟨rfl, ?_⟩ (.cons ⟨rfl, ?_⟩ (.cons ⟨rfl, ?_⟩ .nil))
    · exact tells_ofReader fun p => reports_text
    · refine tells_ofReader ?_
      rintro ⟨before, v⟩ (rfl | ⟨s, rfl⟩)
      · exact .value none
      · exact .value (some s)
    · refine tells_ofReader ?_
      rintro ⟨before, v⟩ (rfl | ⟨s, word⟩)
      · exact .value none
      · exact CallStatus.reports_word word
  unknown _ _ _ := rfl

theorem isReadable_of_allows {m : Member} (listed : m ∈ sketch) {v : Value} (allowed : m.Allows v) :
    v.isReadable HostFunction.nestingRoom = true := by
  revert v
  revert m
  simp only [sketch, Member.spare, List.forall_mem_cons]
  refine ⟨?_, ?_, ?_, by simp⟩
  · rintro v ⟨s, rfl⟩
    exact HostFunction.isReadable_of_isScalar (.text s)
  · rintro v (rfl | ⟨s, rfl⟩)
    · exact HostFunction.isReadable_of_isScalar .null
    · exact HostFunction.isReadable_of_isScalar (.text s)
  · rintro v (rfl | ⟨s, rfl | rfl⟩)
    · exact HostFunction.isReadable_of_isScalar .null
    · exact HostFunction.isReadable_of_isScalar (.text s.keyword)
    · rfl

theorem ofMembers_reports {members : List (String × Value)} (parts : Value.HasParts sketch members) :
    Reports (ofMembers (Value.named members))
      ((RecordKind.required .function).find? fun name => !(Value.ofMembers members).has name) := by
  have unread : ∀ field ∈ fields, field.isRead {} = true → field.name ∉ members.map (·.1) := by
    simp [fields, Field.ofReader]
  have read := readMembers_reports reporting parts unread []
  rw [findSome?_nothing] at read
  refine read.bind fun draft inside => ?_
  have name := isRead_of_readMembers reporting.marks inside _ (List.mem_cons_self ..)
  exact reports_require name fun _ => .value _

end Signature

namespace HostFunction

theorem others_of_splitMembers {members others : List (Option String × Value)}
    {start params : Option (List Param)} (split : splitMembers members start = .ok (params, others)) :
    others = members.filter (·.1 != some "params") := by
  induction members generalizing start params others with
  | nil =>
    cases split
    rfl
  | cons x members ih =>
    obtain ⟨key, v⟩ := x
    cases key with
    | none => cases split
    | some key =>
      rw [splitMembers] at split
      by_cases named : key = "params"
      · rw [if_pos named] at split
        split at split
        · cases split
        · obtain ⟨ps, _, rest⟩ := Reading.bind_eq_ok.1 split
          rw [ih rest, List.filter_cons_of_neg (by simp [named])]
      · rw [if_neg named] at split
        split at split
        · obtain ⟨⟨ps, rest⟩, later, same⟩ := Reading.bind_eq_ok.1 split
          cases same
          rw [ih later, List.filter_cons_of_pos (by simp [named])]
        · cases split

theorem isReadable_of_parts {members : List (String × Value)}
    (parts : Value.HasParts sketch members) {x : String × Value} (member : x ∈ members)
    (other : x.1 ≠ "params") : x.2.isReadable nestingRoom = true := by
  by_cases known : ∃ m ∈ sketch, m.name = x.1
  · obtain ⟨m, listed, same⟩ := known
    have allowed := parts.allowed x member m listed same
    rcases List.mem_cons.1 listed with rfl | own
    · exact absurd same.symm other
    · exact Signature.isReadable_of_allows own allowed
  · exact isReadable_of_isScalar (parts.unknown x member fun m listed same => known ⟨m, listed, same⟩)

theorem splitMembers_reports {members : List (String × Value)}
    (parts : Value.HasParts sketch members) {start : Option (List Param)}
    (once : start.isSome = true → "params" ∉ members.map (·.1)) (before : List Token) :
    Reports (splitMembers (Value.named members) start)
      ((Place.membersAfter before (Value.named members)).findSome? fun x =>
        (Record.ofParams x).findSome? Record.missing?) := by
  -- the parameters are read where they stand, the other members only after the closing bracket
  induction members generalizing start before with
  | nil => exact .value (start, [])
  | cons x rest ih =>
    have tail : Value.HasParts sketch rest :=
      parts.restrict (List.sublist_cons_self x rest) (fun _ listed => listed)
        fun _ _ _ listed _ => listed
    rw [Value.named_cons, splitMembers, Place.membersAfter, findSome?_cons_eq_or]
    by_cases named : x.1 = "params"
    · have fresh : start.isSome ≠ true := fun read => once read (by simp [named])
      obtain ⟨items, array, each⟩ :=
        parts.allowed x (List.mem_cons_self ..) _ (List.mem_cons_self ..) named.symm
      have list := readList_reports (p := ⟨before ++ [.string (some "params"), .colon], x.2⟩) array
        fun q listed => Param.ofValue_reports (Value.IsArrayOf.each ⟨items, array, each⟩ q listed)
      rw [if_pos named, if_neg fresh, named, Record.ofParams_params, List.findSome?_map]
      refine list.bind fun ps _ => ih tail (fun _ => ?_) _
      exact named ▸ parts.fresh (List.mem_cons_self ..) named.symm
    · have readable := isReadable_of_parts parts (List.mem_cons_self ..) named
      have unnamed : some x.1 ≠ some "params" := fun same => named (Option.some.inj same)
      have later := (ih tail (fun read member => once read (List.mem_cons_of_mem x.1 member))
        (before ++ [.string (some x.1), .colon] ++ x.2.tokens ++ [.comma])).bind
        fun split _ => Reports.value (split.1, (some x.1, x.2) :: split.2)
      rw [if_neg named, if_pos readable, Record.ofParams_other unnamed]
      rwa [Option.or_none] at later

theorem others_named (members : List (String × Value)) :
    (Value.named members).filter (·.1 != some "params") =
      Value.named (members.filter (·.1 != "params")) := by
  rw [Value.named, Value.named, List.filter_map]
  rfl

theorem hasParts_others {members : List (String × Value)} (parts : Value.HasParts sketch members) :
    Value.HasParts Signature.sketch (members.filter (·.1 != "params")) := by
  refine parts.restrict List.filter_sublist (fun m listed => List.mem_cons_of_mem _ listed) ?_
  intro x member m listed same
  rcases List.mem_cons.1 listed with rfl | own
  · have other : x.1 ≠ "params" := by simpa using (List.mem_filter.1 member).2
    exact absurd same.symm other
  · exact own

theorem has_name_others (members : List (String × Value)) :
    (Value.ofMembers (members.filter (·.1 != "params"))).has "name" =
      (Value.ofMembers members).has "name" := by
  rw [Bool.eq_iff_iff, Value.has_ofMembers, Value.has_ofMembers, List.mem_map, List.mem_map]
  constructor
  · rintro ⟨x, member, named⟩
    exact ⟨x, List.mem_of_mem_filter member, named⟩
  · rintro ⟨x, member, named⟩
    exact ⟨x, List.mem_filter.2 ⟨member, by simp [named]⟩, named⟩

theorem ofValue_ofMembers (members : List (String × Value)) :
    ofValue (Value.ofMembers members) = (do
      let (params, others) ← splitMembers (Value.named members) none
      let signature ← Signature.ofMembers others
      return { toSignature := signature, params := params.getD [] }) := rfl

/-- A function that lacks its name is reported after its parameters. -/
theorem ofValue_reports {f : Place} (shape : f.value.IsObjectOf sketch) :
    Reports (ofValue f.value) ((Record.ofFunction f).findSome? Record.missing?) := by
  obtain ⟨before, v⟩ := f
  obtain ⟨members, same, parts, _⟩ := shape
  dsimp only at same
  subst same
  have once : (none : Option (List Param)).isSome = true → "params" ∉ members.map (·.1) := nofun
  have split := splitMembers_reports parts once (before ++ [.openObject])
  rw [Record.ofFunction, List.findSome?_append, findSome?_flatMap, List.findSome?_singleton,
    ofValue_ofMembers]
  refine split.bind fun ⟨params, others⟩ inside => ?_
  have own := Signature.ofMembers_reports (hasParts_others parts)
  have closing := own.bind fun signature _ => Reports.value
    ({ toSignature := signature, params := params.getD [] } : HostFunction)
  rw [others_of_splitMembers inside, others_named, Record.missing?]
  simp only [RecordKind.required, List.find?_cons, has_name_others, Option.or_none] at closing ⊢
  exact closing

end HostFunction

namespace Descriptors

theorem reporting : Reporting fields sketch fun x =>
    (Record.ofSection x).findSome? Record.missing? where
  marks := by
    simp only [Marks, fields, Field.ofReader, List.forall_mem_cons, Reading.map_eq_ok]
    refine ⟨?_, ?_, by simp⟩
    all_goals
      rintro v before _ ⟨x, _, rfl⟩
      simp
  reads := by
    refine .cons ⟨rfl, ?_⟩ (.cons ⟨rfl, ?_⟩ .nil)
    · refine tells_ofReader fun p array => ?_
      have each := Value.IsArrayOf.each array
      obtain ⟨items, same, _⟩ := array
      have list := readList_reports same fun q listed => TypeEntry.ofValue_reports (each q listed)
      rw [Member.spare, Record.ofSection_types, List.findSome?_map]
      exact list
    · refine tells_ofReader fun p array => ?_
      have each := Value.IsArrayOf.each array
      obtain ⟨items, same, _⟩ := array
      have list := readList_reports same fun q listed => HostFunction.ofValue_reports (each q listed)
      rwa [Member.spare, Record.ofSection_functions, findSome?_flatMap]
  unknown name p other := by
    simp only [sketch, Member.spare, List.forall_mem_cons] at other
    obtain ⟨types, functions, _⟩ := other
    have types : some name ≠ some "types" := by simpa using Ne.symm types
    have functions : some name ≠ some "functions" := by simpa using Ne.symm functions
    rw [Record.ofSection_other types functions, List.findSome?_nil]

theorem ofValue_reports {file : Value} (shape : IsSketch file) :
    Reports (ofValue file) ((Record.all file).findSome? Record.missing?) := by
  have unread : ∀ field ∈ fields, field.isRead {} = false := by simp [fields, Field.ofReader]
  have record : Reports (ofValue file)
      ((Place.members ⟨[], file⟩).findSome? (fun x => (Record.ofSection x).findSome? Record.missing?)
        |>.or (([] : List String).find? fun name => !file.has name)) :=
    readRecord_reports (p := ⟨[], file⟩) reporting unread (fun _ _ _ => .value _) shape
  rwa [List.find?_nil, Option.or_none, ← findSome?_flatMap] at record

/-- A descriptor file is read unless a record of it lacks something. -/
theorem ofJson_reports {file : Value} {text : String} (shape : IsSketch file)
    (spelled : SpellsTokens file.tokens text.toList) :
    Reports (ofJson text) ((Record.all file).findSome? Record.missing?) := by
  have read := (ofValue_reports shape).bind fun d _ => Reports.value d.normalize
  rw [Option.or_none] at read
  rwa [ofJson, Value.ofText_spelled shape.isPlain spelled]

end Descriptors

namespace Record

instance (r : Record) : Decidable r.IsComplete :=
  inferInstanceAs (Decidable (∀ name ∈ r.kind.required, r.value.has name = true))

/-- The record has the members that it must have before this one, and does not have this one. -/
def LacksFirst (r : Record) (name : String) : Prop :=
  ∃ before after, r.kind.required = before ++ name :: after ∧
    (∀ other ∈ before, r.value.has other = true) ∧ r.value.has name = false

theorem missing?_eq_some_iff {r : Record} {name : String} :
    r.missing? = some name ↔ r.LacksFirst name := by
  rw [missing?, List.find?_eq_some_iff_append]
  constructor
  · rintro ⟨absent, before, after, same, present⟩
    exact ⟨before, after, same, by simpa using present, by simpa using absent⟩
  · rintro ⟨before, after, same, present, absent⟩
    exact ⟨by simpa using absent, before, after, same, by simpa using present⟩

/-- What is found first among records in the order of their ends is missing from the one that ends
first among those that are not complete. -/
theorem first_missing {rs : List Record} {name : String}
    (ordered : rs.Pairwise fun r s => r.size < s.size) (found : rs.findSome? missing? = some name) :
    ∃ r ∈ rs, r.LacksFirst name ∧ ∀ s ∈ rs, ¬ s.IsComplete → r.size ≤ s.size := by
  obtain ⟨before, r, after, rfl, lacks, complete⟩ := List.findSome?_eq_some_iff.1 found
  obtain ⟨_, later, _⟩ := List.pairwise_append.1 ordered
  refine ⟨r, by simp, missing?_eq_some_iff.1 lacks, fun s member incomplete => ?_⟩
  rcases List.mem_append.1 member with earlier | here
  · exact absurd (missing?_eq_none_iff.1 (complete s earlier)) incomplete
  · rcases List.mem_cons.1 here with rfl | after
    · exact Nat.le_refl _
    · exact Nat.le_of_lt (List.rel_of_pairwise_cons later after)

end Record

namespace Descriptors

/-- A descriptor file is read just when all its records are complete. If some are not, then of those
the one that is closed first in the text is reported, for the first of its members that is missing
in the order of their declaration, whatever the order of those that are there. -/
theorem ofJson_sketched {file : Value} {text : String} (shape : IsSketch file)
    (spelled : SpellsTokens file.tokens text.toList) :
    let records := Record.all file
    (records.Pairwise (fun r s => r.size < s.size) ∧
      ∀ r ∈ records, r.upTo <+: file.tokens ∧ r.upTo.getLast? = some .closeObject) ∧
    ((∃ d, ofJson text = .ok d) ↔ ∀ r ∈ records, r.IsComplete) ∧
    ((¬ ∀ r ∈ records, r.IsComplete) →
      ∃ r ∈ records, ∃ name, r.LacksFirst name ∧
        (∀ s ∈ records, ¬ s.IsComplete → r.size ≤ s.size) ∧
        ofJson text = .mismatch (.missingField name)) := by
  intro records
  have places := Record.standIn_all shape
  have reports := ofJson_reports shape spelled
  have complete : records.findSome? Record.missing? = none ↔ ∀ r ∈ records, r.IsComplete := by
    simp only [List.findSome?_eq_none_iff, Record.missing?_eq_none_iff]
  refine ⟨⟨places.ordered, fun r listed => ?_⟩, reports.exists_ok_iff.trans complete, ?_⟩
  · exact ⟨(places.within r listed).text, Record.getLast?_upTo (places.shaped r listed)⟩
  · intro incomplete
    cases found : records.findSome? Record.missing? with
    | none => exact absurd (complete.1 found) incomplete
    | some name =>
      obtain ⟨r, listed, lacks, first⟩ := Record.first_missing places.ordered found
      exact ⟨r, listed, name, lacks, first, (found ▸ reports).eq_missing⟩

end Descriptors

def nestedParam : Value := .ofMembers [("type", .text "VkDevice"), ("name", .text "device")]

def nestedFunction : Value := .ofMembers [("params", .array [nestedParam] true)]

/-- A type, a function and its parameter that all lack something; the parameter is closed first. -/
def nestedFile : Value :=
  .ofMembers [("functions", .array [nestedFunction] true),
    ("types", .array [.ofMembers [("category", .text "struct")]] true)]

theorem sketch_nestedParam : nestedParam.IsObjectOf Param.sketch := by
  refine ⟨_, rfl, ⟨?_, ?_, ?_⟩, ?_⟩ <;> simp [Param.sketch, Member.spare, Value.IsText, Value.text]

theorem sketch_nestedFunction : nestedFunction.IsObjectOf HostFunction.sketch := by
  refine ⟨_, rfl, ⟨?_, ?_, ?_⟩, ?_⟩ <;>
    simp [HostFunction.sketch, Signature.sketch, Member.spare, Value.IsArrayOf, sketch_nestedParam]

theorem sketch_nestedFile : Descriptors.IsSketch nestedFile := by
  have category : ∃ c : Category, (Value.text "struct").SaysWord c.keyword := ⟨.struct, .inl rfl⟩
  have type : (Value.ofMembers [("category", .text "struct")]).IsObjectOf TypeEntry.sketch := by
    refine ⟨_, rfl, ⟨?_, ?_, ?_⟩, ?_⟩ <;> simp [TypeEntry.sketch, Member.spare, category]
  refine ⟨_, rfl, ⟨?_, ?_, ?_⟩, ?_⟩ <;>
    simp [Descriptors.sketch, Member.spare, Value.IsArrayOf, sketch_nestedFunction, type]

theorem ofJson_sketched_nestedFile :
    Descriptors.IsSketch nestedFile ∧
      SpellsTokens nestedFile.tokens nestedFile.write.toList ∧
      Descriptors.ofJson nestedFile.write = .mismatch (.missingField "param_arg") := by
  have spelled := sketch_nestedFile.isPlain.spells_write
  obtain ⟨_, _, reported⟩ := Descriptors.ofJson_sketched sketch_nestedFile spelled
  obtain ⟨r, listed, name, lacks, first, read⟩ := reported (by decide +kernel)
  have param : ∀ r ∈ Record.all nestedFile,
      (∀ s ∈ Record.all nestedFile, ¬ s.IsComplete → r.size ≤ s.size) →
      r.missing? = some "param_arg" := by
    decide +kernel
  have same := (Record.missing?_eq_some_iff.2 lacks).symm.trans (param r listed first)
  rw [← Option.some.inj same]
  exact ⟨sketch_nestedFile, spelled, read⟩

end HostCall
