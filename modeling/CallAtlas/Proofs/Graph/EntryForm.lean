import CallAtlas.Proofs.Graph.Construction
import CallAtlas.Proofs.Json.Form

/-!
# Which values are entries

Entries and call sites are written as objects or as lists of their fields, and as nothing else. An
object with any other value, or with a call site that has no file or no line, makes no graph: the
construction fails with the least key whose value is no entry.
-/

namespace CallAtlas

namespace Json

/-- A number that is an integer of 32 bits. -/
def IsWord : Json → Prop
  | .number (.int n) => 0 ≤ n ∧ n ≤ 4294967295
  | _ => False

/-- A value that decodes as a call site. -/
def IsSite (value : Json) : Prop :=
  ∃ site, CallSite.record.decode value = .ok site

/-- A text as the file, and a line. -/
def HasPlace (members : List (String × Json)) : Prop :=
  (∃ file, members.lookup "file" = some (.string file)) ∧
    ∃ line, members.lookup "line" = some line ∧ line.IsWord

/-- An object with a file and a line, or the list of the fields of such an object. -/
def IsPlaced : Json → Prop
  | .object members => HasPlace members
  | .array items => items.length ≤ 4 ∧ HasPlace (["file", "line", "column", "text"].zip items)
  | _ => False

/-- An object with a file and a line. -/
def IsPlacedObject : Json → Prop
  | .object members => HasPlace members
  | _ => False

/-- Among the call sites that members list, in either spelling, there is one of a kind. -/
def ListsSite (kind : Json → Prop) (members : List (String × Json)) : Prop :=
  ∃ member ∈ members, (member.1 = "referencedAt" ∨ member.1 = "referenced_at") ∧
    ∃ items, member.2 = .array items ∧ ∃ item ∈ items, kind item

/-- No object, or an object with a call site that is no object with a file and a line. -/
def Strays : Json → Prop
  | .object members => ListsSite (fun item => ¬ item.IsPlacedObject) members
  | _ => True

/-- A list, or an object with a call site that is a list. -/
def HasLists : Json → Prop
  | .object members => ListsSite (fun item => ∃ fields, item = .array fields) members
  | .array _ => True
  | _ => False

/-- Neither an object nor a list of fields, or one with a call site that is not placed. -/
def Offends : Json → Prop
  | .object members => ListsSite (fun item => ¬ item.IsPlaced) members
  | .array items =>
    3 < items.length ∨
      ListsSite (fun item => ¬ item.IsPlaced)
        (["identifier", "referencedAt", "definedAt"].zip items)
  | _ => True

theorem strays_of_offends {value : Json} (offends : value.Offends) : value.Strays := by
  cases value with
  | object members =>
    obtain ⟨member, present, spelling, items, same, item, listed, unplaced⟩ := offends
    refine ⟨member, present, spelling, items, same, item, listed, fun placed => ?_⟩
    cases item with
    | object => exact unplaced placed
    | null | boolean | number | string | array => exact placed
  | null | boolean | number | string | array => trivial

/-- Where nothing is written as a list, what strays offends. -/
theorem offends_of_strays {value : Json} (plain : ¬ value.HasLists) (strays : value.Strays) :
    value.Offends := by
  cases value with
  | object members =>
    obtain ⟨member, present, spelling, items, same, item, listed, unplaced⟩ := strays
    refine ⟨member, present, spelling, items, same, item, listed, fun placed => ?_⟩
    cases item with
    | object => exact unplaced placed
    | array fields => exact plain ⟨member, present, spelling, items, same, _, listed, fields, rfl⟩
    | null | boolean | number | string => exact placed
  | array => exact absurd trivial plain
  | null | boolean | number | string => trivial

end Json

namespace Decoder

variable {α : Type} {decode : Decoder α} {item : Json}

theorem exists_string_iff :
    (∃ value, Decoder.string item = .ok value) ↔ ∃ value, item = .string value := by
  cases item <;> simp [Decoder.string]

theorem exists_word_iff : (∃ value, Decoder.word item = .ok value) ↔ item.IsWord := by
  cases item with
  | number value =>
    cases value with
    | int n =>
      have bound : n < (UInt32.size : Int) ↔ n ≤ 4294967295 := by
        simp only [UInt32.size]
        omega
      simp only [Decoder.word, Decoder.natBelow, Json.IsWord, bound]
      by_cases inside : 0 ≤ n ∧ n ≤ 4294967295
      · rw [if_pos inside]
        exact iff_of_true ⟨_, rfl⟩ inside
      · rw [if_neg inside]
        exact iff_of_false (by simp) inside
    | double bits => simp [Decoder.word, Decoder.natBelow, Json.IsWord]
  | null | boolean | string | array | object => simp [Decoder.word, Decoder.natBelow, Json.IsWord]

theorem exists_optional_iff :
    (∃ value, Decoder.optional decode item = .ok value) ↔
      item = .null ∨ ∃ value, decode item = .ok value := by
  cases item <;> simp [Decoder.optional, Except.map_eq_ok_iff]

theorem exists_list_iff :
    (∃ values, Decoder.list decode item = .ok values) ↔
      ∃ items, item = .array items ∧ ∀ own ∈ items, ∃ value, decode own = .ok value := by
  cases item <;> simp [Decoder.list, items_eq_ok_iff, exists_forall₂_iff]

theorem exists_map_iff :
    (∃ values, Decoder.map decode item = .ok values) ↔
      ∃ pairs, item = .object pairs ∧ ∀ pair ∈ pairs, ∃ value, decode pair.2 = .ok value := by
  cases item <;> simp [Decoder.map, members_eq_ok_iff, exists_forall₂_iff]

end Decoder

/-- A step that cannot fail behind one that can. -/
theorem Except.exists_map_eq_ok_iff {ε α β : Type} {x : Except ε α} {f : α → β} :
    (∃ b, (do return f (← x)) = .ok b) ↔ ∃ a, x = .ok a := by
  cases x with
  | error e => simp [bind, Except.bind]
  | ok a => simp [bind, Except.bind, pure, Except.pure]

namespace CallSite

/-- What the fields of a call site take. -/
def FieldForm : String → Json → Prop
  | "file", item => ∃ file, item = .string file
  | "line", item => item.IsWord
  | "column", item => item = .null ∨ item.IsWord
  | "text", item => item = .null ∨ ∃ text, item = .string text
  | _, _ => True

theorem exists_read_iff {field : String} {item : Json} {before : CallSite} :
    (∃ after, record.read field item before = .ok after) ↔ FieldForm field item := by
  simp only [record]
  split
  · exact Except.exists_map_eq_ok_iff.trans Decoder.exists_string_iff
  · exact Except.exists_map_eq_ok_iff.trans Decoder.exists_word_iff
  · exact Except.exists_map_eq_ok_iff.trans
      (Decoder.exists_optional_iff.trans (or_congr_right Decoder.exists_word_iff))
  · exact Except.exists_map_eq_ok_iff.trans
      (Decoder.exists_optional_iff.trans (or_congr_right Decoder.exists_string_iff))
  · rename_i noFile noLine noColumn noText
    refine iff_of_true ⟨before, rfl⟩ ?_
    unfold FieldForm
    split
    · exact (noFile rfl).elim
    · exact (noLine rfl).elim
    · exact (noColumn rfl).elim
    · exact (noText rfl).elim
    · trivial

theorem takes_iff {field : String} {item : Json} : record.Takes field item ↔ FieldForm field item :=
  exists_read_iff

theorem isSteady : record.IsSteady :=
  fun _ _ _ => exists_read_iff.trans takes_iff.symm

theorem hasPlainFields : record.HasPlainFields where
  distinct := by decide
  own := fun _ _ => rfl

/-- The values that decode as call sites. -/
theorem isSite_iff {value : Json} : value.IsSite ↔ record.Form value :=
  Record.exists_decode_eq_ok_iff isSteady hasPlainFields

/-- What makes up a call site has a file and a line. -/
theorem hasPlace_of_isComplete {members : List (String × Json)}
    (complete : record.IsComplete members) : Json.HasPlace members := by
  obtain ⟨file, foundFile, takesFile⟩ :=
    complete.exists_lookup (fun _ => rfl) (show "file" ∈ ["file", "line"] by decide)
  obtain ⟨line, foundLine, takesLine⟩ :=
    complete.exists_lookup (fun _ => rfl) (show "line" ∈ ["file", "line"] by decide)
  obtain ⟨name, rfl⟩ := takes_iff.mp takesFile
  exact ⟨⟨name, foundFile⟩, line, foundLine, takes_iff.mp takesLine⟩

theorem isPlaced_of_isSite {value : Json} (site : value.IsSite) : value.IsPlaced := by
  cases isSite_iff.mp site with
  | object complete => exact hasPlace_of_isComplete complete
  | array _ fits complete => exact ⟨fits, hasPlace_of_isComplete complete⟩

end CallSite

namespace EntryRecord

/-- What the fields of an entry take. -/
def FieldForm : String → Json → Prop
  | "identifier", item => item = .null ∨ ∃ name, item = .string name
  | "referencedAt", item => item = .null ∨ ∃ items, item = .array items ∧ ∀ own ∈ items, own.IsSite
  | "definedAt", item =>
    item = .null ∨ ∃ pairs, item = .object pairs ∧
      ∀ pair ∈ pairs, ∃ line, definitionLine pair.2 = .ok line
  | _, _ => True

theorem exists_read_iff {field : String} {item : Json} {before : EntryRecord} :
    (∃ after, record.read field item before = .ok after) ↔ FieldForm field item := by
  simp only [record]
  split
  · exact Except.exists_map_eq_ok_iff.trans
      (Decoder.exists_optional_iff.trans (or_congr_right Decoder.exists_string_iff))
  · exact Except.exists_map_eq_ok_iff.trans
      (Decoder.exists_optional_iff.trans (or_congr_right Decoder.exists_list_iff))
  · exact Except.exists_map_eq_ok_iff.trans
      (Decoder.exists_optional_iff.trans (or_congr_right Decoder.exists_map_iff))
  · rename_i noName noSites noLines
    refine iff_of_true ⟨before, rfl⟩ ?_
    unfold FieldForm
    split
    · exact (noName rfl).elim
    · exact (noSites rfl).elim
    · exact (noLines rfl).elim
    · trivial

theorem takes_iff {field : String} {item : Json} : record.Takes field item ↔ FieldForm field item :=
  exists_read_iff

theorem isSteady : record.IsSteady :=
  fun _ _ _ => exists_read_iff.trans takes_iff.symm

theorem hasPlainFields : record.HasPlainFields where
  distinct := by decide
  own := by decide

/-- The values that decode as entries. -/
theorem isEntry_iff {value : Json} : value.IsEntry ↔ record.Form value :=
  Record.exists_decode_eq_ok_iff isSteady hasPlainFields

/-- What makes up an entry has placed call sites only. -/
theorem not_listsSite_of_isComplete {members : List (String × Json)}
    (complete : record.IsComplete members) :
    ¬ Json.ListsSite (fun item => ¬ item.IsPlaced) members := by
  rintro ⟨⟨key, value⟩, present, spelling, items, rfl, item, member, stray⟩
  have stands : record.fieldOf key = "referencedAt" := by
    rcases spelling with rfl | rfl
    · rfl
    · rfl
  have known : record.fieldOf key ∈ record.fields := by
    rw [stands]
    decide
  have takes := complete.taken _ present known
  rw [stands] at takes
  rcases takes_iff.mp takes with null | ⟨own, same, sites⟩
  · cases null
  · obtain rfl := Json.array.inj same
    exact stray (CallSite.isPlaced_of_isSite (sites item member))

theorem not_isEntry_of_offends {value : Json} (offends : value.Offends) : ¬ value.IsEntry := by
  intro entry
  cases isEntry_iff.mp entry with
  | object complete => exact not_listsSite_of_isComplete complete offends
  | array _ fits complete =>
    rcases offends with long | stray
    · exact absurd fits (Nat.not_le.mpr long)
    · exact not_listsSite_of_isComplete complete stray

end EntryRecord

namespace CallGraph

/-- The construction fails with the key of a value of a kind, or of a value that is no entry for
another reason and comes before all values of the kind. -/
def FailsFor (kind : Json → Prop) (members : List (String × Json)) : Prop :=
  ∃ key item mismatch, (key, item) ∈ members ∧
    ofEntries (.object members) = .error (.malformed key mismatch.message) ∧
    EntryRecord.record.decode item = .error mismatch ∧
    (kind item ∨ ∀ member ∈ members, kind member.2 → Text.bytes key < Text.bytes member.1)

/-- With a value that is no entry the construction fails, and the least key of such a value
decides. -/
theorem ofEntries_of_foreign {members : List (String × Json)} {foreign : String × Json}
    (ascending : Json.ByteAscending members) (present : foreign ∈ members)
    (noEntry : ¬ foreign.2.IsEntry) :
    ∃ key item mismatch, (key, item) ∈ members ∧
      ofEntries (.object members) = .error (.malformed key mismatch.message) ∧
      EntryRecord.record.decode item = .error mismatch ∧
      ∀ member ∈ members, Text.bytes member.1 < Text.bytes key → member.2.IsEntry := by
  cases made : ofEntries (.object members) with
  | ok graph =>
    rcases exists_ofEntries_eq_ok_iff.mp ⟨graph, made⟩ with null | ⟨own, same, entries⟩
    · cases null
    · obtain rfl := Json.object.inj same
      exact absurd (entries foreign present) noEntry
  | error failure =>
    obtain ⟨key, item, mismatch, here, bad, rfl, below⟩ :=
      least_of_decodeEntries_eq_error ascending (Except.map_eq_error_iff.mp made)
    exact ⟨key, item, mismatch, here, rfl, bad, below⟩

/-- With an offending value the least key whose value is no entry decides. -/
theorem failsFor_offends {members : List (String × Json)} {offender : String × Json}
    (ascending : Json.ByteAscending members) (present : offender ∈ members)
    (offends : offender.2.Offends) : FailsFor Json.Offends members := by
  obtain ⟨key, item, mismatch, here, failed, bad, below⟩ :=
    ofEntries_of_foreign ascending present (EntryRecord.not_isEntry_of_offends offends)
  refine ⟨key, item, mismatch, here, failed, bad, ?_⟩
  by_cases own : item.Offends
  · exact .inl own
  · refine .inr fun member there memberOffends => ?_
    have different : (key, item) ≠ member := by
      rintro rfl
      exact own memberOffends
    refine (ascending.apart here there different).resolve_right fun earlier => ?_
    exact EntryRecord.not_isEntry_of_offends memberOffends (below member there earlier)

/-- Where nothing is written as a list, a value that strays is reported in the same way. -/
theorem failsFor_strays {members : List (String × Json)} {stray : String × Json}
    (plain : ∀ member ∈ members, ¬ member.2.HasLists) (ascending : Json.ByteAscending members)
    (present : stray ∈ members) (strays : stray.2.Strays) : FailsFor Json.Strays members := by
  obtain ⟨key, item, mismatch, here, failed, bad, first⟩ :=
    failsFor_offends ascending present (Json.offends_of_strays (plain stray present) strays)
  refine ⟨key, item, mismatch, here, failed, bad, ?_⟩
  rcases first with offends | before
  · exact .inl (Json.strays_of_offends offends)
  · refine .inr fun member there other => ?_
    exact before member there (Json.offends_of_strays (plain member there) other)

/-- Which objects make graphs, and how those with another value fail. -/
structure RejectsForms (members : List (String × Json)) : Prop where
  /-- The values that make a graph are objects, and lists of up to three fields. -/
  accepts : (∃ graph, ofEntries (.object members) = .ok graph) ↔
    ∀ member ∈ members, EntryRecord.record.Form member.2
  entryField : ∀ field item, EntryRecord.record.Takes field item ↔ EntryRecord.FieldForm field item
  /-- Call sites are objects, and lists of two to four fields. -/
  site : ∀ value : Json, value.IsSite ↔ CallSite.record.Form value
  siteField : ∀ field item, CallSite.record.Takes field item ↔ CallSite.FieldForm field item
  /-- Where nothing is written as a list, a value that strays makes the construction fail. -/
  meets : (∀ member ∈ members, ¬ member.2.HasLists) → Json.ByteAscending members →
    (∃ stray ∈ members, stray.2.Strays) → FailsFor Json.Strays members
  /-- A value that offends makes the construction fail, whatever is written as a list. -/
  rejects : Json.ByteAscending members → (∃ offender ∈ members, offender.2.Offends) →
    FailsFor Json.Offends members

/-- An object makes a graph if its values are entries, in either of the forms of a record. -/
theorem rejectsForms (members : List (String × Json)) : RejectsForms members where
  accepts := by
    simp only [← EntryRecord.isEntry_iff]
    refine exists_ofEntries_eq_ok_iff.trans ⟨?_, fun entries => .inr ⟨members, rfl, entries⟩⟩
    rintro (null | ⟨own, same, entries⟩)
    · cases null
    · rwa [Json.object.inj same]
  entryField := fun _ _ => EntryRecord.takes_iff
  site := fun _ => CallSite.isSite_iff
  siteField := fun _ _ => CallSite.takes_iff
  meets := fun plain ascending ⟨_, present, strays⟩ =>
    failsFor_strays plain ascending present strays
  rejects := fun ascending ⟨_, present, offends⟩ => failsFor_offends ascending present offends

/-- A value of the wrong kind behind a key with an entry is reported under its own key. -/
theorem rejectsForms_text : ∃ mismatch : Mismatch,
    ofEntries (.object [("a.js:1:f", .object []), ("a.js:2:f", .string "nope")]) =
      .error (.malformed "a.js:2:f" mismatch.message) := by
  have ascending : Json.ByteAscending
      [("a.js:1:f", .object []), ("a.js:2:f", .string "nope")] := by
    simp only [Json.ByteAscending, List.pairwise_pair]
    decide +kernel
  obtain ⟨key, item, mismatch, here, failed, bad, -⟩ :=
    (rejectsForms _).rejects ascending ⟨("a.js:2:f", .string "nope"), by simp, trivial⟩
  obtain ⟨rfl, rfl⟩ | ⟨rfl, rfl⟩ : (key = "a.js:1:f" ∧ item = .object []) ∨
      (key = "a.js:2:f" ∧ item = .string "nope") := by simpa using here
  · cases bad
  · exact ⟨mismatch, failed⟩

/-- A list without items is an entry, and a list of a file and a line is a call site. -/
theorem graph_of_entry_written_as_list :
    (Json.array []).Strays ∧
      ofEntries (.object [("a.js:1:f", .array [])]) = .ok ⟨[("a.js:1:f", ⟨"f", .empty⟩)]⟩ ∧
      (Json.object [("referencedAt",
        .array [.array [.string "b.js", .number (.int 3)]])]).Strays ∧
      ofEntries (.object [("a.js:1:f", .object [("referencedAt",
        .array [.array [.string "b.js", .number (.int 3)]])])]) =
          .ok ⟨[("a.js:1:f", ⟨"f", .callers [{ file := "b.js", line := 3 }]⟩)]⟩ := by
  refine ⟨trivial, rfl, ?_, rfl⟩
  exact ⟨_, List.mem_singleton_self _, .inl rfl, _, rfl, _, List.mem_singleton_self _, id⟩

end CallGraph

end CallAtlas
