import CallAtlas.Proofs.Graph.EntryForm
import CallAtlas.Proofs.Resolution.Candidates
import Mathlib.Data.List.Nodup

/-!
# Which values are definition records

A definition is written as null, as a line, as a list or as an object, and its line is found in a
different way in each. Whatever else is written, one value in none of these forms makes the
construction of a graph fail; otherwise an entry without call sites has every path that its value
has, once and in byte order.
-/

namespace CallAtlas

/-- The forms of a definition record, and the line that each of them gives. -/
inductive DefinitionForm : Json → Option UInt32 → Prop where
  | null : DefinitionForm .null none
  | bare (line : UInt32) : DefinitionForm (.word line) (some line)
  /-- A list that starts with a line, whatever follows it. -/
  | rows (line : UInt32) (rest : List Json) :
    DefinitionForm (.array (.word line :: rest)) (some line)
  /-- A list that starts with something else, or is empty. -/
  | unnumbered (items : List Json) (noLine : ∀ line, items.head? ≠ some (.word line)) :
    DefinitionForm (.array items) none
  | absent (members : List (String × Json)) (noLine : members.lookup "line" = none) :
    DefinitionForm (.object members) none
  | unknown (members : List (String × Json)) (written : members.lookup "line" = some .null) :
    DefinitionForm (.object members) none
  | record (members : List (String × Json)) (line : UInt32)
      (written : members.lookup "line" = some (.word line)) :
    DefinitionForm (.object members) (some line)

namespace Json

/-- A value in one of the forms of a definition record. -/
def IsDefinition : Json → Prop
  | .null => True
  | .number value => (Json.number value).IsWord
  | .array _ => True
  | .object members => ∀ line, members.lookup "line" = some line → line = .null ∨ line.IsWord
  | .boolean _ | .string _ => False

/-- Among the definitions that members list, in either spelling, there is a record of a kind. -/
def ListsRecord (kind : Json → Prop) (members : List (String × Json)) : Prop :=
  ∃ member ∈ members, (member.1 = "definedAt" ∨ member.1 = "defined_at") ∧
    ∃ pairs, member.2 = .object pairs ∧ ∃ pair ∈ pairs, kind pair.2

/-- An entry in either of its forms that is written with a definition record of a kind. -/
def WritesRecord (kind : Json → Prop) : Json → Prop
  | .object members => ListsRecord kind members
  | .array items => ListsRecord kind (["identifier", "referencedAt", "definedAt"].zip items)
  | _ => False

end Json

/-- What decodes as a word is the number of that word. -/
theorem Decoder.word_eq_ok_iff {item : Json} {line : UInt32} :
    Decoder.word item = .ok line ↔ item = .word line := by
  constructor
  · intro decoded
    unfold Decoder.word natBelow at decoded
    split at decoded
    · rename_i n
      split at decoded
      · rename_i inside
        obtain ⟨least, below⟩ := inside
        obtain rfl := Except.ok.inj decoded
        have small : n.toNat < UInt32.size := by omega
        rw [Json.word, UInt32.toNat_ofNat_of_lt' small, Json.nat, Json.int,
            Int.toNat_of_nonneg least]
      · cases decoded
    · cases decoded
  · rintro rfl
    have below : (line.toNat : Int) < UInt32.size := Int.ofNat_lt.mpr line.toNat_lt
    simp only [Decoder.word, natBelow, Json.word, Json.nat, Json.int]
    rw [if_pos ⟨Int.natCast_nonneg _, below⟩, Int.toNat_natCast, UInt32.ofNat_toNat]

theorem Decoder.optional_word_eq_ok_iff {item : Json} {line : Option UInt32} :
    Decoder.optional Decoder.word item = .ok line ↔ item = .optional .word line := by
  cases item with
  | null => cases line <;> simp [Decoder.optional, Json.optional, Json.word, Json.nat, Json.int]
  | number | boolean | string | array | object =>
    rw [Decoder.optional, Except.map_eq_ok_iff]
    · simp only [Decoder.word_eq_ok_iff]
      cases line <;> simp [Json.optional]
    · intro null
      cases null

theorem Json.isWord_iff {item : Json} : item.IsWord ↔ ∃ line, item = .word line := by
  rw [← Decoder.exists_word_iff]
  simp only [Decoder.word_eq_ok_iff]

@[simp]
theorem Decoder.word_word (line : UInt32) : Decoder.word (.word line) = .ok line :=
  Decoder.word_eq_ok_iff.mpr rfl

variable {value : Json} {line : Option UInt32}

/-- What is read as a definition record is written as one. -/
theorem definitionForm_of_definitionLine (decoded : definitionLine value = .ok line) :
    DefinitionForm value line := by
  unfold definitionLine at decoded
  split at decoded
  · cases decoded
    exact .null
  · rename_i items
    split at decoded
    · rename_i own first
      cases decoded
      obtain ⟨item, head, read⟩ := Option.map_eq_some_iff.mp first
      obtain rfl := Decoder.word_eq_ok_iff.mp read
      obtain ⟨rest, rfl⟩ := List.head?_eq_some_iff.mp head
      exact .rows own rest
    · rename_i noLine
      cases decoded
      exact .unnumbered items fun own head => noLine own (by rw [head]; simp)
  · rename_i members
    split at decoded
    · rename_i noLine
      cases decoded
      exact .absent members noLine
    · rename_i item written
      split at decoded
      · rename_i own read
        cases decoded
        rw [Decoder.optional_word_eq_ok_iff.mp read] at written
        cases line with
        | none => exact .unknown members written
        | some own => exact .record members own written
      · cases decoded
  · split at decoded
    · rename_i own read
      cases decoded
      rw [Decoder.word_eq_ok_iff.mp read]
      exact .bare own
    · cases decoded

theorem definitionLine_number (value : Number) : definitionLine (.number value) =
    match Decoder.word (.number value) with
    | .ok line => .ok (some line)
    | .error _ => .error noDefinition :=
  rfl

theorem definitionLine_object {members : List (String × Json)} {item : Json}
    (written : members.lookup "line" = some item)
    (read : Decoder.optional Decoder.word item = .ok line) :
    definitionLine (.object members) = .ok line := by
  rw [definitionLine, written]
  simp only [read]

/-- What is written as a definition record is read as one. -/
theorem definitionLine_of_definitionForm (form : DefinitionForm value line) :
    definitionLine value = .ok line := by
  cases form with
  | null => rfl
  | bare line =>
    have read : Decoder.word (.number (.int line.toNat)) = .ok line := Decoder.word_word line
    rw [Json.word, Json.nat, Json.int, definitionLine_number, read]
  | rows line rest =>
    rw [definitionLine, List.head?_cons, Option.map_some, Decoder.word_word]
  | unnumbered items noLine =>
    rw [definitionLine]
    split
    · rename_i line first
      obtain ⟨item, head, read⟩ := Option.map_eq_some_iff.mp first
      rw [Decoder.word_eq_ok_iff.mp read] at head
      exact absurd head (noLine line)
    · rfl
  | absent members noLine => rw [definitionLine, noLine]
  | unknown members written => exact definitionLine_object written rfl
  | record members line written =>
    exact definitionLine_object written (Decoder.optional_word_eq_ok_iff.mpr rfl)

/-- A value is read as a definition record with a line exactly if it is written so. -/
theorem definitionLine_eq_ok_iff : definitionLine value = .ok line ↔ DefinitionForm value line :=
  ⟨definitionForm_of_definitionLine, definitionLine_of_definitionForm⟩

/-- The values that are read as definition records. -/
theorem exists_definitionLine_iff :
    (∃ line, definitionLine value = .ok line) ↔ value.IsDefinition := by
  simp only [definitionLine_eq_ok_iff]
  constructor
  · rintro ⟨line, form⟩
    cases form with
    | null | rows | unnumbered => trivial
    | bare line => exact Json.isWord_iff.mpr ⟨line, rfl⟩
    | absent members noLine =>
      intro item written
      rw [noLine] at written
      cases written
    | unknown members found =>
      intro item written
      exact .inl (Option.some.inj (written.symm.trans found))
    | record members line found =>
      intro item written
      exact .inr (Json.isWord_iff.mpr ⟨line, Option.some.inj (written.symm.trans found)⟩)
  · intro fits
    cases value with
    | null => exact ⟨none, .null⟩
    | boolean | string => exact fits.elim
    | number value =>
      obtain ⟨line, same⟩ := Json.isWord_iff.mp fits
      exact ⟨some line, same ▸ .bare line⟩
    | array items =>
      by_cases first : ∃ line, items.head? = some (.word line)
      · obtain ⟨line, head⟩ := first
        obtain ⟨rest, rfl⟩ := List.head?_eq_some_iff.mp head
        exact ⟨some line, .rows line rest⟩
      · exact ⟨none, .unnumbered items (not_exists.mp first)⟩
    | object members =>
      cases written : members.lookup "line" with
      | none => exact ⟨none, .absent members written⟩
      | some item =>
        rcases fits item written with rfl | word
        · exact ⟨none, .unknown members written⟩
        · obtain ⟨line, rfl⟩ := Json.isWord_iff.mp word
          exact ⟨some line, .record members line written⟩

namespace EntryRecord

/-- The field of the definitions takes null, or a map of definition records. -/
theorem takes_definedAt_iff {item : Json} :
    record.Takes "definedAt" item ↔
      item = .null ∨ ∃ pairs, item = .object pairs ∧ ∀ pair ∈ pairs, pair.2.IsDefinition := by
  rw [takes_iff]
  simp only [FieldForm, exists_definitionLine_iff]

theorem not_listsRecord_of_isComplete {members : List (String × Json)}
    (complete : record.IsComplete members) :
    ¬ Json.ListsRecord (fun item => ¬ item.IsDefinition) members := by
  rintro ⟨⟨key, value⟩, present, spelling, pairs, rfl, pair, member, stray⟩
  have stands : record.fieldOf key = "definedAt" := by
    rcases spelling with rfl | rfl
    · rfl
    · rfl
  have known : record.fieldOf key ∈ record.fields := by
    rw [stands]
    decide
  have takes := complete.taken _ present known
  rw [stands] at takes
  rcases takes_definedAt_iff.mp takes with null | ⟨own, same, definitions⟩
  · cases null
  · obtain rfl := Json.object.inj same
    exact stray (definitions pair member)

/-- An entry is written with definition records only. -/
theorem not_isEntry_of_writesRecord {value : Json}
    (writes : value.WritesRecord fun item => ¬ item.IsDefinition) : ¬ value.IsEntry := by
  intro entry
  cases isEntry_iff.mp entry with
  | object complete => exact not_listsRecord_of_isComplete complete writes
  | array _ _ complete => exact not_listsRecord_of_isComplete complete writes

end EntryRecord

namespace CallGraph

/-- How the definitions of the entries of a graph are read from the value that it is made of. -/
structure ReadsDefinitions (value : Json) : Prop where
  /-- The values that are definition records. -/
  accepts : ∀ item, (∃ line, definitionLine item = .ok line) ↔ item.IsDefinition
  /-- The line of each of them. -/
  line : ∀ item line, definitionLine item = .ok line ↔ DefinitionForm item line
  /-- A graph is made if every value is an entry, whose definitions are absent, null or a map of
  definition records. -/
  made : (∃ graph, ofEntries value = .ok graph) ↔
    value = .null ∨ ∃ members, value = .object members ∧
      ∀ member ∈ members, EntryRecord.record.Form member.2
  field : ∀ item, EntryRecord.record.Takes "definedAt" item ↔
    item = .null ∨ ∃ pairs, item = .object pairs ∧ ∀ pair ∈ pairs, pair.2.IsDefinition
  /-- With any other record in an entry the construction fails, and reports the key of that entry or
  of a value before it that is no entry either. -/
  rejects : ∀ member ∈ value.members, member.2.WritesRecord (fun item => ¬ item.IsDefinition) →
    ∃ key item mismatch, (key, item) ∈ value.members ∧
      ofEntries value = .error (.malformed key mismatch.message) ∧
      EntryRecord.record.decode item = .error mismatch ∧
      (key = member.1 ∨ Text.bytes key < Text.bytes member.1)
  /-- An entry without call sites has the paths of its value, each once and in byte order, with the
  lines of their records. -/
  lists : ∀ graph key item, ofEntries value = .ok graph → value.member? key = some item →
    item.sites = [] → item.definitions ≠ [] →
      ∃ entry candidates, graph.get? key = some entry ∧ entry.target = .definitions candidates ∧
        candidates.map Definition.path = item.definitions.map Prod.fst ∧
        (∀ path ∈ item.definitions.map Prod.fst, (candidates.map Definition.path).count path = 1) ∧
        Text.Ascending (candidates.map Definition.path) ∧
        List.Forall₂ (fun pair candidate => DefinitionForm pair.2 candidate.line)
          item.definitions candidates

/-- The definitions of a canonical value are read each by its own form. -/
theorem readsDefinitions {value : Json} (canonical : value.IsCanonical) :
    ReadsDefinitions value where
  accepts := fun _ => exists_definitionLine_iff
  line := fun _ _ => definitionLine_eq_ok_iff
  made := by
    simp only [← EntryRecord.isEntry_iff]
    exact exists_ofEntries_eq_ok_iff
  field := fun _ => EntryRecord.takes_definedAt_iff
  rejects := by
    intro member present writes
    have ascending := canonical.byteAscending
    have noEntry := EntryRecord.not_isEntry_of_writesRecord writes
    cases value with
    | object members =>
      obtain ⟨key, item, mismatch, here, failed, bad, below⟩ :=
        ofEntries_of_foreign ascending present noEntry
      refine ⟨key, item, mismatch, here, failed, bad, ?_⟩
      by_cases same : (key, item) = member
      · exact .inl (congrArg Prod.fst same)
      · refine .inr ((ascending.apart here present same).resolve_right fun earlier => ?_)
        exact noEntry (below member present earlier)
    | null | boolean | number | string | array => cases present
  lists := by
    intro graph key item made written bare present
    have reflects := reflects_ofEntries made key
    rw [written] at reflects
    obtain ⟨entry, decoded, stored⟩ := reflects
    have holds := Entry.holds_of_decode decoded
    have filled := holds.isFilled (canonical.member? written)
    obtain ⟨identifier, target⟩ := entry
    cases holds with
    | callers sites own listed => exact absurd bare listed
    | nothing _ barren => exact absurd barren present
    | definitions candidates _ own _ =>
      cases filled with
      | definitions _ _ ascending =>
        have paths := map_path_of_definitionsOf own
        refine ⟨_, candidates, stored, rfl, paths, fun path member => ?_, ascending, ?_⟩
        · rw [← paths] at member
          exact List.count_eq_one_of_mem ascending.nodup member
        · exact own.imp fun _ _ found => definitionLine_eq_ok_iff.mp found.2

/-- Two records of which one is an object and the other a list without a line. -/
theorem readsDefinitions_two_candidates :
    twoCandidates.IsCanonical ∧ ∃ graph entry candidates,
      ofEntries twoCandidates = .ok graph ∧ graph.get? "a.js:5:f" = some entry ∧
        entry.target = .definitions candidates ∧
        candidates.map Definition.path = ["b.js", "c.js"] := by
  have reads := readsDefinitions isCanonical_twoCandidates
  refine ⟨isCanonical_twoCandidates,
    ⟨[("a.js:5:f", ⟨"f", .definitions [⟨"b.js", some 7⟩, ⟨"c.js", none⟩]⟩)]⟩, ?_⟩
  have present : (Json.object [("definedAt", .object [("b.js", .object [("line", .int 7)]),
      ("c.js", .array [.null])])]).definitions ≠ [] :=
    List.cons_ne_nil _ _
  obtain ⟨entry, candidates, stored, target, paths, -⟩ :=
    reads.lists _ "a.js:5:f" _ (by rfl) (by rfl) (by rfl) present
  exact ⟨entry, candidates, by rfl, stored, target, paths⟩

-- A number that is no line is no record, and a list may hold anything.
example :
    ofEntries (.object [("a.js:1:f", .object [("definedAt", .object
      [("b.js", .array [.string "seven", .object []]), ("c.js", .int (-1))])])]) =
        .error (.malformed "a.js:1:f"
          "data did not match any variant of untagged enum RawDefinitionLine") := by
  rfl

end CallGraph

end CallAtlas
