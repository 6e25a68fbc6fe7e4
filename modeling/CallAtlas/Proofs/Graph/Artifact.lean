import CallAtlas.Graph.Basic
import CallAtlas.Proofs.Json.Canonical
import CallAtlas.Proofs.Json.Record

/-!
# Graphs of artifacts

A graph has an entry under a key exactly if the artifact has a value there, and the call sites and
definitions of the entry are those that this value is written with.
-/

namespace CallAtlas

namespace Json

/-- The value of a member of an object. -/
def member? (key : String) : Json → Option Json
  | .object members => members.lookup key
  | _ => none

/-- The members of an object; other values have none. -/
def members : Json → List (String × Json)
  | .object members => members
  | _ => []

/-- The value under a key in the call graph of an artifact. -/
def entry? (document : Json) (key : String) : Option Json :=
  (document.member? CallGraph.artifactField).bind fun entries => entries.member? key

/-- The call sites of the value under a key, as they are written. -/
def sites (value : Json) : List Json :=
  match EntryRecord.record.valueOf? "referencedAt" value with
  | some (.array items) => items
  | _ => []

/-- The definitions of the value under a key, as they are written. -/
def definitions (value : Json) : List (String × Json) :=
  match EntryRecord.record.valueOf? "definedAt" value with
  | some (.object pairs) => pairs
  | _ => []

end Json

/-- Call sites and the values that they are written as. -/
def SitesOf : List Json → List CallSite → Prop :=
  List.Forall₂ fun item site => CallSite.record.decode item = .ok site

/-- Definitions and the pairs of a path and a value that they are written as. -/
def DefinitionsOf : List (String × Json) → List Definition → Prop :=
  List.Forall₂ fun pair definition =>
    definition.path = pair.1 ∧ definitionLine pair.2 = .ok definition.line

/-- What a value is written with: call sites, or else definitions, or neither. -/
inductive Json.Holds (value : Json) : Target → Prop where
  | callers (sites : List CallSite) (written : SitesOf value.sites sites)
      (present : value.sites ≠ []) : Holds value (.callers sites)
  | definitions (candidates : List Definition) (bare : value.sites = [])
      (written : DefinitionsOf value.definitions candidates) (present : value.definitions ≠ []) :
    Holds value (.definitions candidates)
  | nothing (bare : value.sites = []) (barren : value.definitions = []) : Holds value .empty

section Decoding

namespace EntryRecord

/-- What reading a field does to a record. -/
theorem read_cases {field : String} {item : Json} {before after : EntryRecord}
    (taken : record.read field item before = .ok after) :
    (field = "identifier" ∧ ∃ name, Decoder.optional Decoder.string item = .ok name ∧
      after = { before with identifier := name }) ∨
    (field = "referencedAt" ∧ ∃ sites,
      Decoder.optional (Decoder.list CallSite.record.decode) item = .ok sites ∧
        after = { before with referencedAt := sites }) ∨
    (field = "definedAt" ∧ ∃ lines,
      Decoder.optional (Decoder.map definitionLine) item = .ok lines ∧
        after = { before with definedAt := lines }) ∨
    (field ∉ record.fields ∧ after = before) := by
  simp only [record] at taken
  split at taken
  · obtain ⟨name, decoded, taken⟩ := Except.bind_eq_ok_iff.mp taken
    exact .inl ⟨rfl, name, decoded, (Except.ok.inj taken).symm⟩
  · obtain ⟨sites, decoded, taken⟩ := Except.bind_eq_ok_iff.mp taken
    exact .inr (.inl ⟨rfl, sites, decoded, (Except.ok.inj taken).symm⟩)
  · obtain ⟨lines, decoded, taken⟩ := Except.bind_eq_ok_iff.mp taken
    exact .inr (.inr (.inl ⟨rfl, lines, decoded, (Except.ok.inj taken).symm⟩))
  · rename_i noName noSites noLines
    refine .inr (.inr (.inr ⟨?_, (Except.ok.inj taken).symm⟩))
    simpa [record] using ⟨noName, noSites, noLines⟩

theorem reads_referencedAt : record.Reads "referencedAt" referencedAt
    (Decoder.optional (Decoder.list CallSite.record.decode)) where
  own := by
    intro item before after taken
    rcases read_cases taken with ⟨no, -⟩ | ⟨-, sites, decoded, rfl⟩ | ⟨no, -⟩ | ⟨no, -⟩
    · simp at no
    · exact decoded
    · simp at no
    · exact absurd (by decide) no
  others := by
    intro other item before after different taken
    rcases read_cases taken with ⟨-, _, -, rfl⟩ | ⟨same, -⟩ | ⟨-, _, -, rfl⟩ | ⟨-, rfl⟩
    · rfl
    · exact absurd same different
    · rfl
    · rfl

theorem reads_definedAt : record.Reads "definedAt" definedAt
    (Decoder.optional (Decoder.map definitionLine)) where
  own := by
    intro item before after taken
    rcases read_cases taken with ⟨no, -⟩ | ⟨no, -⟩ | ⟨-, lines, decoded, rfl⟩ | ⟨no, -⟩
    · simp at no
    · simp at no
    · exact decoded
    · exact absurd (by decide) no
  others := by
    intro other item before after different taken
    rcases read_cases taken with ⟨-, _, -, rfl⟩ | ⟨-, _, -, rfl⟩ | ⟨same, -⟩ | ⟨-, rfl⟩
    · rfl
    · rfl
    · exact absurd same different
    · rfl

variable {value : Json} {entry : EntryRecord}

theorem sites_of_decode (decoded : record.decode value = .ok entry) :
    SitesOf value.sites (entry.referencedAt.getD []) := by
  have settles := reads_referencedAt.decode_eq_ok (by decide) (by decide) decoded
  unfold Json.sites
  cases found : record.valueOf? "referencedAt" value with
  | none =>
    rw [found] at settles
    rw [show entry.referencedAt = none from settles]
    exact .nil
  | some item =>
    rw [found] at settles
    cases item with
    | null =>
      rw [← Except.ok.inj settles]
      exact .nil
    | array items =>
      cases taken : Decoder.items CallSite.record.decode items with
      | error mismatch =>
        simp [Record.Settles, Decoder.optional, Decoder.list, taken, Except.map] at settles
      | ok sites =>
        simp only [Record.Settles, Decoder.optional, Decoder.list, taken, Except.map] at settles
        rw [← Except.ok.inj settles]
        exact Decoder.items_eq_ok_iff.mp taken
    | boolean | number | string | object => cases settles

theorem definitions_of_decode (decoded : record.decode value = .ok entry) :
    DefinitionsOf value.definitions
      ((entry.definedAt.getD []).map fun (path, line) => ⟨path, line⟩) := by
  have settles := reads_definedAt.decode_eq_ok (by decide) (by decide) decoded
  unfold Json.definitions
  cases found : record.valueOf? "definedAt" value with
  | none =>
    rw [found] at settles
    rw [show entry.definedAt = none from settles]
    exact .nil
  | some item =>
    rw [found] at settles
    cases item with
    | null =>
      rw [← Except.ok.inj settles]
      exact .nil
    | object pairs =>
      cases taken : Decoder.members definitionLine pairs with
      | error mismatch =>
        simp [Record.Settles, Decoder.optional, Decoder.map, taken, Except.map] at settles
      | ok lines =>
        simp only [Record.Settles, Decoder.optional, Decoder.map, taken, Except.map] at settles
        rw [← Except.ok.inj settles]
        exact List.forall₂_map_right_iff.mpr (Decoder.members_eq_ok_iff.mp taken)
    | boolean | number | string | array => cases settles

/-- A record answers what its value is written with. -/
theorem holds_of_decode (decoded : record.decode value = .ok entry) :
    value.Holds entry.target := by
  have sites := sites_of_decode decoded
  have definitions := definitions_of_decode decoded
  unfold target
  generalize entry.referencedAt.getD [] = callers at sites
  generalize entry.definedAt.getD [] = candidates at definitions
  cases callers with
  | cons first rest =>
    refine .callers _ sites ?_
    intro none
    rw [none] at sites
    cases sites
  | nil =>
    have bare := List.forall₂_nil_right_iff.mp sites
    cases candidates with
    | nil => exact .nothing bare (List.forall₂_nil_right_iff.mp definitions)
    | cons first rest =>
      refine .definitions _ bare definitions ?_
      intro none
      rw [none] at definitions
      cases definitions

end EntryRecord

theorem Entry.holds_of_decode {key : String} {value : Json} {entry : Entry}
    (decoded : Entry.decode key value = .ok entry) : value.Holds entry.target := by
  obtain ⟨record, taken, rfl⟩ := Except.map_eq_ok_iff.mp decoded
  exact EntryRecord.holds_of_decode taken

end Decoding

section Lookup

variable {document : Json} {graph : CallGraph} {key : String}

/-- What a lookup gives, given the value under the key if there is one. -/
def CallGraph.Reflects (graph : CallGraph) (key : String) : Option Json → Prop
  | none => graph.get? key = none
  | some value => ∃ entry, Entry.decode key value = .ok entry ∧ graph.get? key = some entry

theorem CallGraph.decodeEntries_cons_eq_ok {own : String} {value : Json}
    {rest : List (String × Json)} {entries : List (String × Entry)}
    (decoded : decodeEntries ((own, value) :: rest) = .ok entries) :
    ∃ entry others, Entry.decode own value = .ok entry ∧ decodeEntries rest = .ok others ∧
      entries = (own, entry) :: others := by
  unfold decodeEntries at decoded
  cases first : Entry.decode own value with
  | error mismatch =>
    rw [first] at decoded
    cases decoded
  | ok entry =>
    rw [first] at decoded
    cases further : decodeEntries rest with
    | error failure =>
      rw [further] at decoded
      cases decoded
    | ok others =>
      rw [further] at decoded
      exact ⟨entry, others, rfl, rfl, (Except.ok.inj decoded).symm⟩

theorem CallGraph.reflects_decodeEntries {members : List (String × Json)}
    {entries : List (String × Entry)} (decoded : decodeEntries members = .ok entries)
    (key : String) : (CallGraph.mk entries).Reflects key (members.lookup key) := by
  induction members generalizing entries with
  | nil =>
    obtain rfl := Except.ok.inj decoded
    rfl
  | cons member rest ih =>
    obtain ⟨own, value⟩ := member
    obtain ⟨entry, others, first, further, rfl⟩ := decodeEntries_cons_eq_ok decoded
    rw [List.lookup_cons]
    by_cases same : key = own
    · subst same
      rw [beq_self_eq_true]
      exact ⟨entry, first, List.lookup_cons_self⟩
    · have apart : (key == own) = false := beq_eq_false_iff_ne.mpr same
      have skip : (CallGraph.mk ((own, entry) :: others)).get? key =
          (CallGraph.mk others).get? key := by
        rw [get?, List.lookup_cons, apart]
        rfl
      have reflects := ih further
      rw [apart]
      unfold Reflects at reflects ⊢
      rwa [skip]

theorem CallGraph.decodeEntries_of_ofEntries {value : Json}
    (accepted : ofEntries value = .ok graph) :
    decodeEntries value.members = .ok graph.entries := by
  cases value with
  | null =>
    obtain rfl := Except.ok.inj accepted
    rfl
  | object members =>
    obtain ⟨entries, decoded, rfl⟩ := Except.map_eq_ok_iff.mp accepted
    exact decoded
  | boolean | number | string | array => cases accepted

/-- A graph has an entry exactly where the value that it is made of has a member. -/
theorem CallGraph.reflects_ofEntries {value : Json} (accepted : ofEntries value = .ok graph)
    (key : String) : graph.Reflects key (value.member? key) := by
  have reflects := reflects_decodeEntries (decodeEntries_of_ofEntries accepted) key
  cases value <;> exact reflects

theorem CallGraph.ofArtifact_of_noObject (shape : ∀ members, document ≠ .object members) :
    ofArtifact document = .error (notObject "artifact" document) := by
  cases document with
  | object members => exact absurd rfl (shape members)
  | null | boolean | number | string | array => rfl

/-- A document without a call graph is one without entries. -/
theorem CallGraph.ofArtifact_of_absent {members : List (String × Json)}
    (absent : (Json.object members).member? artifactField = none) :
    ofArtifact (.object members) = .ok empty := by
  have unfound : members.lookup artifactField = none := absent
  rw [ofArtifact, unfound]

theorem CallGraph.ofArtifact_of_member? {value : Json}
    (field : document.member? artifactField = some value) :
    ofArtifact document = ofEntries value := by
  cases document with
  | object members =>
    have found : members.lookup artifactField = some value := field
    rw [ofArtifact, found]
  | null | boolean | number | string | array => cases field

theorem Json.IsCanonical.member? {value item : Json} (canonical : value.IsCanonical)
    (found : value.member? key = some item) : item.IsCanonical := by
  cases canonical with
  | object members ascending each =>
    obtain ⟨before, behind, split, -⟩ := List.lookup_eq_some_iff.mp found
    exact each (key, item) (by simp [split])
  | null | boolean | number | string | array => cases found

theorem Json.IsCanonical.valueOf? {α : Type} {record : Record α} {field : String}
    {value item : Json} (canonical : value.IsCanonical)
    (found : record.valueOf? field value = some item) : item.IsCanonical := by
  cases canonical with
  | object members ascending each =>
    obtain ⟨member, present, rfl⟩ := Option.map_eq_some_iff.mp found
    exact each member (List.mem_of_find?_eq_some present)
  | array items each =>
    obtain ⟨before, behind, split, -⟩ := List.lookup_eq_some_iff.mp found
    have paired : (field, item) ∈ record.fields.zip items := by simp [split]
    exact each item (List.of_mem_zip paired).2
  | null | boolean | number | string => cases found

/-- The definitions of a canonical value ascend in their paths. -/
theorem Json.IsCanonical.ascending_definitions {value : Json} (canonical : value.IsCanonical) :
    Ascending value.definitions := by
  unfold definitions
  split
  · rename_i pairs written
    cases canonical.valueOf? written with
    | object _ ascending _ => exact ascending
  · exact .nil

theorem Json.IsCanonical.entry? {value : Json} (canonical : document.IsCanonical)
    (found : document.entry? key = some value) : value.IsCanonical := by
  obtain ⟨entries, field, member⟩ := Option.bind_eq_some_iff.mp found
  exact (canonical.member? field).member? member

end Lookup

/-! ## Artifacts that are no call graphs -/

/-- A value that decodes as an entry. -/
def Json.IsEntry (value : Json) : Prop :=
  ∃ record, EntryRecord.record.decode value = .ok record

/-- A value decodes as an entry under every key or under none. -/
theorem Entry.exists_decode_eq_ok_iff (key : String) {value : Json} :
    (∃ entry, decode key value = .ok entry) ↔ value.IsEntry := by
  simp only [decode, Except.map_eq_ok_iff]
  constructor
  · rintro ⟨_, record, decoded, -⟩
    exact ⟨record, decoded⟩
  · rintro ⟨record, decoded⟩
    exact ⟨_, record, decoded, rfl⟩

theorem Entry.exists_decode_eq_error_iff (key : String) {value : Json} :
    (∃ mismatch, decode key value = .error mismatch) ↔ ¬ value.IsEntry := by
  rw [← exists_decode_eq_ok_iff key]
  cases decode key value <;> simp

theorem Entry.decode_eq_error_iff {key : String} {value : Json} {mismatch : Mismatch} :
    decode key value = .error mismatch ↔ EntryRecord.record.decode value = .error mismatch :=
  Except.map_eq_error_iff

namespace CallGraph

/-- The first member that is no entry decides how the members fail. -/
theorem exists_of_decodeEntries_eq_error {members : List (String × Json)} {failure : Failure}
    (fails : decodeEntries members = .error failure) :
    ∃ before key value behind mismatch, members = before ++ (key, value) :: behind ∧
      (∀ member ∈ before, member.2.IsEntry) ∧ EntryRecord.record.decode value = .error mismatch ∧
        failure = .malformed key mismatch.message := by
  induction members with
  | nil => cases fails
  | cons member rest ih =>
    obtain ⟨key, value⟩ := member
    unfold decodeEntries at fails
    cases decoded : Entry.decode key value with
    | error mismatch =>
      rw [decoded] at fails
      exact ⟨[], key, value, rest, mismatch, rfl, List.forall_mem_nil _,
        Entry.decode_eq_error_iff.mp decoded, (Except.error.inj fails).symm⟩
    | ok entry =>
      have isEntry : value.IsEntry := (Entry.exists_decode_eq_ok_iff key).mp ⟨entry, decoded⟩
      rw [decoded] at fails
      cases others : decodeEntries rest with
      | ok entries =>
        rw [others] at fails
        cases fails
      | error own =>
        rw [others] at fails
        obtain rfl : own = failure := Except.error.inj fails
        obtain ⟨before, least, item, behind, mismatch, rfl, good, bad, rfl⟩ := ih others
        exact ⟨(key, value) :: before, least, item, behind, mismatch, rfl,
          List.forall_mem_cons.mpr ⟨isEntry, good⟩, bad, rfl⟩

/-- An artifact that is no call graph is malformed. -/
theorem ofArtifact_malformed {document : Json} {failure : Failure}
    (fails : ofArtifact document = .error failure) :
    ∃ context message, failure = .malformed context message := by
  have entries {value : Json} (fails : ofEntries value = .error failure) :
      ∃ context message, failure = .malformed context message := by
    cases value with
    | null => cases fails
    | object members =>
      obtain ⟨-, key, -, -, mismatch, -, -, -, failed⟩ :=
        exists_of_decodeEntries_eq_error (Except.map_eq_error_iff.mp fails)
      exact ⟨key, mismatch.message, failed⟩
    | boolean | number | string | array => exact ⟨_, _, (Except.error.inj fails).symm⟩
  by_cases shape : ∀ members, document ≠ .object members
  · rw [ofArtifact_of_noObject shape] at fails
    exact ⟨_, _, (Except.error.inj fails).symm⟩
  obtain ⟨members, rfl⟩ := not_forall_not.mp shape
  cases field : (Json.object members).member? artifactField with
  | none =>
    rw [ofArtifact_of_absent field] at fails
    cases fails
  | some value =>
    rw [ofArtifact_of_member? field] at fails
    exact entries fails

end CallGraph

end CallAtlas
