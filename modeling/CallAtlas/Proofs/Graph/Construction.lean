import CallAtlas.Proofs.Graph.Artifact
import CallAtlas.Proofs.Text.ByteOrder
import CallAtlas.Proofs.Text.Numeral

/-!
# Graphs of entries

A graph is made of all members of an object or of none. What it holds under a key is made of that
key and of the value there, and of nothing else; if a graph cannot be made, the first member that is
no entry says why, and in an object that is kept in byte order that is the one with the least key.
-/

namespace CallAtlas

namespace Json

/-- Members whose keys ascend in their bytes. -/
def ByteAscending (members : List (String × Json)) : Prop :=
  members.Pairwise fun before behind => Text.bytes before.1 < Text.bytes behind.1

theorem byteAscending_iff {members : List (String × Json)} :
    ByteAscending members ↔ Ascending members :=
  List.Pairwise.iff fun _ _ => Text.lt_iff_bytes_lt.symm

/-- Of two members in byte order one comes first. -/
theorem ByteAscending.apart {members : List (String × Json)} (ascending : ByteAscending members)
    {one other : String × Json} (here : one ∈ members) (there : other ∈ members)
    (different : one ≠ other) :
    Text.bytes one.1 < Text.bytes other.1 ∨ Text.bytes other.1 < Text.bytes one.1 := by
  unfold ByteAscending at ascending
  induction ascending with
  | nil => cases here
  | cons above _ ih =>
    rcases List.mem_cons.mp here with rfl | behind
    · rcases List.mem_cons.mp there with rfl | behind
      · exact absurd rfl different
      · exact .inl (above other behind)
    · rcases List.mem_cons.mp there with rfl | further
      · exact .inr (above one behind)
      · exact ih behind further

/-- The members of a canonical object ascend in the bytes of their keys. -/
theorem IsCanonical.byteAscending {value : Json} (canonical : value.IsCanonical) :
    ByteAscending value.members := by
  cases canonical with
  | object members ascending each => exact byteAscending_iff.mpr ascending
  | null | boolean | number | string | array => exact .nil

end Json

open Json (IsEntry)

namespace CallGraph

section Members

variable {members : List (String × Json)} {entries : List (String × Entry)} {failure : Failure}

/-- An entry under its key and the member that it is decoded from. -/
def IsStored (member : String × Json) (stored : String × Entry) : Prop :=
  stored.1 = member.1 ∧ Entry.decode member.1 member.2 = .ok stored.2

theorem decodeEntries_eq_ok_iff :
    decodeEntries members = .ok entries ↔ List.Forall₂ IsStored members entries := by
  induction members generalizing entries with
  | nil =>
    constructor
    · intro decoded
      obtain rfl := Except.ok.inj decoded
      exact .nil
    · rintro ⟨⟩
      rfl
  | cons member rest ih =>
    constructor
    · intro decoded
      obtain ⟨entry, others, first, further, rfl⟩ := decodeEntries_cons_eq_ok decoded
      exact .cons ⟨rfl, first⟩ (ih.mp further)
    · rintro (_ | ⟨⟨same, first⟩, further⟩)
      rw [decodeEntries, first, ih.mpr further, ← same]
      rfl

theorem map_fst_of_stored (stored : List.Forall₂ IsStored members entries) :
    entries.map Prod.fst = members.map Prod.fst := by
  induction stored with
  | nil => rfl
  | cons stored _ ih => rw [List.map_cons, List.map_cons, stored.1, ih]

theorem exists_decodeEntries_eq_ok_iff :
    (∃ entries, decodeEntries members = .ok entries) ↔ ∀ member ∈ members, IsEntry member.2 := by
  simp only [decodeEntries_eq_ok_iff, exists_forall₂_iff]
  refine forall₂_congr fun member _ => ?_
  rw [← Entry.exists_decode_eq_ok_iff member.1]
  constructor
  · rintro ⟨stored, -, decoded⟩
    exact ⟨stored.2, decoded⟩
  · rintro ⟨entry, decoded⟩
    exact ⟨(member.1, entry), rfl, decoded⟩

/-- Of members in byte order the one with the least key that is no entry decides. -/
theorem least_of_decodeEntries_eq_error (ascending : Json.ByteAscending members)
    (fails : decodeEntries members = .error failure) :
    ∃ key value mismatch, (key, value) ∈ members ∧
      EntryRecord.record.decode value = .error mismatch ∧
      failure = .malformed key mismatch.message ∧
      ∀ member ∈ members, Text.bytes member.1 < Text.bytes key → IsEntry member.2 := by
  obtain ⟨before, key, value, behind, mismatch, rfl, good, bad, failed⟩ :=
    exists_of_decodeEntries_eq_error fails
  refine ⟨key, value, mismatch, by simp, bad, failed, fun member present below => ?_⟩
  obtain ⟨-, above, -⟩ := List.pairwise_append.mp ascending
  rcases List.mem_append.mp present with early | late
  · exact good member early
  · rcases List.mem_cons.mp late with rfl | late
    · exact absurd below (List.lt_irrefl _)
    · exact absurd below (List.lt_asymm ((List.pairwise_cons.mp above).1 member late))

end Members

/-- How a call graph is made of a value. -/
structure Construction (value : Json) : Prop where
  accepts : (∃ graph, ofEntries value = .ok graph) ↔
    value = .null ∨ ∃ members, value = .object members ∧ ∀ member ∈ members, IsEntry member.2
  keys : ∀ graph, ofEntries value = .ok graph →
    graph.entries.map Prod.fst = value.members.map Prod.fst
  /-- Each entry is made of its own key and of the value under it. -/
  stores : ∀ graph, ofEntries value = .ok graph →
    List.Forall₂ IsStored value.members graph.entries
  /-- What is found under a key does not depend on what else is written. -/
  alone : ∀ graph other otherGraph key, ofEntries value = .ok graph →
    ofEntries other = .ok otherGraph → value.member? key = other.member? key →
      graph.get? key = otherGraph.get? key
  /-- Something is found exactly where the key is written, and it is the entry of that key. -/
  finds : ∀ graph path (line : UInt32) identifier key, ofEntries value = .ok graph →
    key = path ++ ":" ++ toString line.toNat ++ ":" ++ identifier →
      ((graph.lookup? path line identifier).isSome ↔ (value.member? key).isSome) ∧
        ∀ item, value.member? key = some item → ∃ entry, Entry.decode key item = .ok entry ∧
          graph.lookup? path line identifier = some entry
  noObject : value ≠ .null → (∀ members, value ≠ .object members) →
    ofEntries value = .error (.malformed "call_graph" ("expected an object, found " ++ value.kind))
  /-- The least key whose value is no entry decides how the construction fails. -/
  least : ∀ members failure, value = .object members → Json.ByteAscending members →
    ofEntries value = .error failure →
      ∃ key item mismatch, (key, item) ∈ members ∧
        EntryRecord.record.decode item = .error mismatch ∧
        failure = .malformed key mismatch.message ∧
        ∀ member ∈ members, Text.bytes member.1 < Text.bytes key → IsEntry member.2
  /-- Values that are read from a text are canonical, and so their keys are in byte order. -/
  inOrder : value.IsCanonical → Json.ByteAscending value.members

section Values

variable {value : Json} {graph : CallGraph} {key : String}

theorem exists_ofEntries_eq_ok_iff : (∃ graph, ofEntries value = .ok graph) ↔
    value = .null ∨ ∃ members, value = .object members ∧ ∀ member ∈ members, IsEntry member.2 := by
  cases value with
  | null => exact iff_of_true ⟨empty, rfl⟩ (.inl rfl)
  | object members =>
    simp only [ofEntries, Except.map_eq_ok_iff]
    constructor
    · rintro ⟨_, entries, decoded, -⟩
      exact .inr ⟨members, rfl, exists_decodeEntries_eq_ok_iff.mp ⟨entries, decoded⟩⟩
    · rintro (no | ⟨others, same, each⟩)
      · cases no
      · obtain rfl := Json.object.inj same
        obtain ⟨entries, decoded⟩ := exists_decodeEntries_eq_ok_iff.mpr each
        exact ⟨_, entries, decoded, rfl⟩
  | boolean | number | string | array => simp [ofEntries]

theorem ofEntries_of_noObject (notNull : value ≠ .null)
    (noObject : ∀ members, value ≠ .object members) :
    ofEntries value = .error (notObject artifactField value) := by
  cases value with
  | null => exact absurd rfl notNull
  | object members => exact absurd rfl (noObject members)
  | boolean | number | string | array => rfl

/-- Two graphs agree where the values that they are made of agree. -/
theorem Reflects.get?_eq {other : CallGraph} {found : Option Json}
    (reflects : graph.Reflects key found) (reflectsOther : other.Reflects key found) :
    graph.get? key = other.get? key := by
  cases found with
  | none => exact reflects.trans reflectsOther.symm
  | some item =>
    obtain ⟨entry, decoded, gives⟩ := reflects
    obtain ⟨otherEntry, decodedOther, givesOther⟩ := reflectsOther
    obtain rfl : entry = otherEntry := Except.ok.inj (decoded.symm.trans decodedOther)
    exact gives.trans givesOther.symm

theorem Reflects.isSome_get?_iff {found : Option Json} (reflects : graph.Reflects key found) :
    (graph.get? key).isSome ↔ found.isSome := by
  cases found with
  | none =>
    rw [show graph.get? key = none from reflects]
    rfl
  | some item =>
    obtain ⟨entry, -, gives⟩ := reflects
    simp [gives]

/-- Every value makes a graph of all its members or fails for the least that is no entry. -/
theorem construction (value : Json) : Construction value where
  accepts := exists_ofEntries_eq_ok_iff
  keys := fun _ accepted =>
    map_fst_of_stored (decodeEntries_eq_ok_iff.mp (decodeEntries_of_ofEntries accepted))
  stores := fun _ accepted => decodeEntries_eq_ok_iff.mp (decodeEntries_of_ofEntries accepted)
  alone := by
    intro graph other otherGraph key accepted acceptedOther same
    have reflectsOther := reflects_ofEntries acceptedOther key
    rw [← same] at reflectsOther
    exact (reflects_ofEntries accepted key).get?_eq reflectsOther
  finds := by
    intro graph path line identifier key accepted written
    have named : KeyParts.key ⟨path, line, identifier⟩ = key := by
      rw [KeyParts.key, Text.ofWord, Text.ofNat_eq_repr, written]
    have reflects := reflects_ofEntries accepted key
    rw [lookup?, named]
    refine ⟨reflects.isSome_get?_iff, fun item found => ?_⟩
    rwa [found] at reflects
  noObject := ofEntries_of_noObject
  least := by
    rintro members failure rfl ascending fails
    exact least_of_decodeEntries_eq_error ascending (Except.map_eq_error_iff.mp fails)
  inOrder := Json.IsCanonical.byteAscending

/-- Keys that are colons for the most part are looked up as they are written. -/
theorem construction_colons : ∃ graph,
    ofEntries (.object [("", .object []), ("a:b:1:f:g", .array [])]) = .ok graph ∧
      (graph.lookup? "a:b" 1 "f:g").isSome := by
  have made := construction (.object [("", .object []), ("a:b:1:f:g", .array [])])
  have each : ∀ member ∈ [("", Json.object []), ("a:b:1:f:g", .array [])], IsEntry member.2 := by
    rw [List.forall_mem_cons, List.forall_mem_cons]
    exact ⟨⟨{}, rfl⟩, ⟨{}, rfl⟩, List.forall_mem_nil _⟩
  obtain ⟨graph, accepted⟩ := made.accepts.mpr (.inr ⟨_, rfl, each⟩)
  exact ⟨graph, accepted, (made.finds graph "a:b" 1 "f:g" _ accepted rfl).1.mpr rfl⟩

end Values

end CallGraph

end CallAtlas
