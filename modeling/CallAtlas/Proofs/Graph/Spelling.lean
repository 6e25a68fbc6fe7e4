import CallAtlas.Proofs.Graph.EntryForm
import CallAtlas.Proofs.Json.Sorted

/-!
# Spellings of fields

Two fields of an entry have a name of each generation of generators. An artifact with other
spellings of these names, chosen entry by entry, makes the same graph or fails in the same way, as
long as no entry has one field in both spellings.
-/

namespace CallAtlas

namespace EntryRecord

/-- The other spelling of a key, if its field has two. -/
def otherSpelling : String → String
  | "referencedAt" => "referenced_at"
  | "referenced_at" => "referencedAt"
  | "definedAt" => "defined_at"
  | "defined_at" => "definedAt"
  | key => key

/-- The key in its other spelling, if its field is chosen. -/
def respell (chosen : String → Bool) (key : String) : String :=
  if chosen (fieldOf key) then otherSpelling key else key

theorem fieldOf_otherSpelling (key : String) : fieldOf (otherSpelling key) = fieldOf key := by
  unfold otherSpelling
  split <;> rfl

theorem otherSpelling_otherSpelling (key : String) : otherSpelling (otherSpelling key) = key := by
  fun_cases otherSpelling key with
  | case1 | case2 | case3 | case4 => rfl
  | case5 key noSites noOlderSites noLines noOlderLines =>
    rw [otherSpelling]
    · exact noSites
    · exact noOlderSites
    · exact noLines
    · exact noOlderLines

theorem fieldOf_respell (chosen : String → Bool) (key : String) :
    fieldOf (respell chosen key) = fieldOf key := by
  unfold respell
  split
  · exact fieldOf_otherSpelling key
  · rfl

theorem respell_respell (chosen : String → Bool) (key : String) :
    respell chosen (respell chosen key) = key := by
  have same := fieldOf_respell chosen key
  rw [respell, same]
  unfold respell
  split
  · exact otherSpelling_otherSpelling key
  · rfl

/-! ## Members of an entry -/

/-- The keys that a field of an entry is read from, in ascending order. -/
def spellings : List String :=
  ["definedAt", "defined_at", "identifier", "referencedAt", "referenced_at"]

theorem mem_spellings {key : String} (known : fieldOf key ∈ record.fields) : key ∈ spellings := by
  revert known
  fun_cases fieldOf key with
  | case1 | case2 => decide
  | case3 key =>
    intro known
    have same : key = "identifier" ∨ key = "referencedAt" ∨ key = "definedAt" := by
      simpa [record] using known
    rcases same with rfl | rfl | rfl <;> decide

/-- The order of the spellings is the order of their fields, but for two spellings of one field. -/
theorem fieldOf_lt_of_lt : ∀ key ∈ spellings, ∀ other ∈ spellings, key < other →
    fieldOf key < fieldOf other ∨ key = "definedAt" ∧ other = "defined_at" ∨
      key = "referencedAt" ∧ other = "referenced_at" := by
  decide +kernel

/-- No field has members in both of its spellings. -/
structure IsSpelledOnce (members : List (String × Json)) : Prop where
  referencedAt : ¬ ("referencedAt" ∈ members.map Prod.fst ∧
    "referenced_at" ∈ members.map Prod.fst)
  definedAt : ¬ ("definedAt" ∈ members.map Prod.fst ∧ "defined_at" ∈ members.map Prod.fst)

variable {key : String} {item : Json} {members rest : List (String × Json)}

theorem IsSpelledOnce.tail (once : IsSpelledOnce ((key, item) :: rest)) : IsSpelledOnce rest where
  referencedAt := fun ⟨first, second⟩ =>
    once.referencedAt ⟨List.mem_cons_of_mem key first, List.mem_cons_of_mem key second⟩
  definedAt := fun ⟨first, second⟩ =>
    once.definedAt ⟨List.mem_cons_of_mem key first, List.mem_cons_of_mem key second⟩

/-- The members that are recognized ascend in their fields as they do in their keys. -/
theorem ascending_recognized (ascending : Json.Ascending members) (once : IsSpelledOnce members) :
    Json.Ascending (record.recognized members) := by
  induction members with
  | nil => exact .nil
  | cons member rest ih =>
    obtain ⟨key, item⟩ := member
    obtain ⟨above, ordered⟩ := List.pairwise_cons.mp ascending
    by_cases known : record.fieldOf key ∈ record.fields
    · rw [Record.recognized_of_known known]
      refine List.pairwise_cons.mpr ⟨fun recognized found => ?_, ih ordered once.tail⟩
      obtain ⟨there, field⟩ := List.mem_filter.mp found
      obtain ⟨⟨other, value⟩, behind, rfl⟩ := List.mem_map.mp there
      have present : other ∈ ((key, item) :: rest).map Prod.fst :=
        List.mem_cons_of_mem key (List.mem_map_of_mem behind)
      have first : key ∈ ((key, item) :: rest).map Prod.fst := List.mem_cons_self
      rcases fieldOf_lt_of_lt key (mem_spellings known) other
        (mem_spellings (of_decide_eq_true field)) (above _ behind) with below | both | both
      · exact below
      · obtain ⟨rfl, rfl⟩ := both
        exact absurd ⟨first, present⟩ once.definedAt
      · obtain ⟨rfl, rfl⟩ := both
        exact absurd ⟨first, present⟩ once.referencedAt
    · rw [Record.recognized_of_foreign known]
      exact ih ordered once.tail

/-- Members with the keys of chosen fields in their other spelling, in the order of the new keys. -/
def respellMembers (chosen : String → Bool) (members : List (String × Json)) :
    List (String × Json) :=
  Json.sortMembers (members.map fun member => (respell chosen member.1, member.2))

theorem perm_respellMembers (chosen : String → Bool) (ascending : Json.Ascending members) :
    (respellMembers chosen members).Perm
      (members.map fun member => (respell chosen member.1, member.2)) := by
  refine Json.perm_sortMembers ?_
  rw [List.map_map]
  refine List.pairwise_map.mpr (ascending.imp fun {one other} below same => ?_)
  have same : respell chosen (respell chosen one.1) = respell chosen (respell chosen other.1) :=
    congrArg (respell chosen) same
  rw [respell_respell, respell_respell] at same
  exact String.ne_of_lt below same

theorem recognized_respell (chosen : String → Bool) (members : List (String × Json)) :
    record.recognized (members.map fun member => (respell chosen member.1, member.2)) =
      record.recognized members := by
  unfold Record.recognized
  rw [List.map_map]
  refine congrArg _ (List.map_congr_left fun member _ => ?_)
  exact congrArg (·, member.2) (fieldOf_respell chosen member.1)

theorem respell_mem_of_mem_respellMembers {chosen : String → Bool}
    (member : key ∈ (respellMembers chosen members).map Prod.fst) :
    respell chosen key ∈ members.map Prod.fst := by
  obtain ⟨respelled, sorted, rfl⟩ := List.mem_map.mp member
  obtain ⟨own, present, rfl⟩ := List.mem_map.mp (Json.mem_sortMembers sorted)
  rw [respell_respell]
  exact List.mem_map_of_mem present

/-- Both spellings of a field change or none does. -/
theorem not_both_mem_respellMembers (chosen : String → Bool)
    (once : ¬ (key ∈ members.map Prod.fst ∧ otherSpelling key ∈ members.map Prod.fst)) :
    ¬ (key ∈ (respellMembers chosen members).map Prod.fst ∧
      otherSpelling key ∈ (respellMembers chosen members).map Prod.fst) := by
  rintro ⟨first, second⟩
  have first := respell_mem_of_mem_respellMembers first
  have second := respell_mem_of_mem_respellMembers second
  rw [respell] at first
  rw [respell, fieldOf_otherSpelling, otherSpelling_otherSpelling] at second
  by_cases change : chosen (fieldOf key) = true
  · rw [if_pos change] at first second
    exact once ⟨second, first⟩
  · rw [if_neg change] at first second
    exact once ⟨first, second⟩

theorem IsSpelledOnce.respellMembers (once : IsSpelledOnce members) (chosen : String → Bool) :
    IsSpelledOnce (respellMembers chosen members) where
  referencedAt := not_both_mem_respellMembers chosen once.referencedAt
  definedAt := not_both_mem_respellMembers chosen once.definedAt

/-- An entry is decoded as it is in other spellings. -/
theorem decode_respellMembers (chosen : String → Bool) (ascending : Json.Ascending members)
    (once : IsSpelledOnce members) :
    record.decode (.object (respellMembers chosen members)) = record.decode (.object members) := by
  refine Record.decode_object_congr hasPlainFields ?_
  have kept := ((perm_respellMembers chosen ascending).map
    fun member => (record.fieldOf member.1, member.2)).filter (·.1 ∈ record.fields)
  have same : (record.recognized (respellMembers chosen members)).Perm
      (record.recognized members) := by
    rw [← recognized_respell chosen members]
    exact kept
  -- Both lists ascend in their fields, so that they have the same members in the same order.
  have here := ascending_recognized (Json.ascending_sortMembers _) (once.respellMembers chosen)
  have there := ascending_recognized ascending once
  refine List.Perm.eq_of_pairwise (fun one other _ _ below above => ?_) here there same
  exact absurd below (String.lt_asymm above)

end EntryRecord

namespace Json

section Members

variable {value : Json} {change : String → Json → Json}

/-- An object with changed values under the keys of its members. -/
def mapMembers (change : String → Json → Json) : Json → Json
  | .object members => .object (members.map fun member => (member.1, change member.1 member.2))
  | value => value

theorem member?_mapMembers (key : String) (value : Json) :
    (value.mapMembers change).member? key = (value.member? key).map (change key) := by
  cases value with
  | object members =>
    change (members.map fun member => (member.1, change member.1 member.2)).lookup key =
      (members.lookup key).map (change key)
    induction members with
    | nil => rfl
    | cons member rest ih =>
      rw [List.map_cons, lookup_cons_eq_ite, lookup_cons_eq_ite, ih]
      split
      · rename_i same
        rw [same]
        rfl
      · rfl
  | null | boolean | number | string | array => rfl

/-- The keys stay as they are, and in their order. -/
theorem IsCanonical.mapMembers (canonical : value.IsCanonical)
    (each : ∀ member ∈ value.members, (change member.1 member.2).IsCanonical) :
    (value.mapMembers change).IsCanonical := by
  cases canonical with
  | object members ascending own =>
    refine .object _ (List.pairwise_map.mpr ascending) fun changed found => ?_
    obtain ⟨member, present, rfl⟩ := List.mem_map.mp found
    exact each member present
  | null => exact .null
  | boolean value => exact .boolean value
  | number value => exact .number value
  | string value => exact .string value
  | array items own => exact .array items own

theorem IsCanonical.of_mem_members (canonical : value.IsCanonical) {member : String × Json}
    (present : member ∈ value.members) : member.2.IsCanonical := by
  cases canonical with
  | object members ascending each => exact each member present
  | null | boolean | number | string | array => cases present

end Members

/-- An entry with the names of chosen fields in their other spelling. -/
def respelled (chosen : String → Bool) : Json → Json
  | .object members => .object (EntryRecord.respellMembers chosen members)
  | value => value

/-- Entries with other spellings, for a choice of fields under each key. -/
def respelledEntries (chosen : String → String → Bool) (value : Json) : Json :=
  value.mapMembers fun key entry => entry.respelled (chosen key)

/-- An artifact with other spellings in its entries, for a choice of fields under each key. -/
def respelledArtifact (chosen : String → String → Bool) (document : Json) : Json :=
  document.mapMembers fun field value =>
    if field = CallGraph.artifactField then value.respelledEntries chosen else value

/-- No entry of an artifact has a field in both of its spellings. -/
def IsSpelledOnce (document : Json) : Prop :=
  ∀ entries, document.member? CallGraph.artifactField = some entries →
    ∀ member ∈ entries.members, EntryRecord.IsSpelledOnce member.2.members

/-- Respelled entries are again as a reader makes them. -/
theorem IsCanonical.respelled {value : Json} (canonical : value.IsCanonical)
    (chosen : String → Bool) : (value.respelled chosen).IsCanonical := by
  cases canonical with
  | object members ascending each =>
    refine .object _ (ascending_sortMembers _) fun member found => ?_
    obtain ⟨own, present, rfl⟩ := List.mem_map.mp (mem_sortMembers found)
    exact each own present
  | null => exact .null
  | boolean value => exact .boolean value
  | number value => exact .number value
  | string value => exact .string value
  | array items each => exact .array items each

theorem IsCanonical.respelledEntries {value : Json} (canonical : value.IsCanonical)
    (chosen : String → String → Bool) : (value.respelledEntries chosen).IsCanonical :=
  canonical.mapMembers fun member present =>
    (canonical.of_mem_members present).respelled (chosen member.1)

theorem IsCanonical.respelledArtifact {document : Json} (canonical : document.IsCanonical)
    (chosen : String → String → Bool) : (document.respelledArtifact chosen).IsCanonical := by
  refine canonical.mapMembers fun member present => ?_
  split
  · exact (canonical.of_mem_members present).respelledEntries chosen
  · exact canonical.of_mem_members present

end Json

theorem EntryRecord.decode_respelled {value : Json} (chosen : String → Bool)
    (canonical : value.IsCanonical) (once : IsSpelledOnce value.members) :
    record.decode (value.respelled chosen) = record.decode value := by
  cases canonical with
  | object members ascending each => exact decode_respellMembers chosen ascending once
  | null | boolean | number | string | array => rfl

namespace CallGraph

/-- Members make the same entries if each of them decodes as it did before its change. -/
theorem decodeEntries_congr {members : List (String × Json)} (change : String → Json → Json)
    (same : ∀ member ∈ members, EntryRecord.record.decode (change member.1 member.2) =
      EntryRecord.record.decode member.2) :
    decodeEntries (members.map fun member => (member.1, change member.1 member.2)) =
      decodeEntries members := by
  induction members with
  | nil => rfl
  | cons member rest ih =>
    obtain ⟨key, value⟩ := member
    obtain ⟨first, others⟩ := List.forall_mem_cons.mp same
    have decoded : Entry.decode key (change key value) = Entry.decode key value :=
      congrArg (Except.map _) first
    rw [List.map_cons, decodeEntries, decodeEntries, decoded, ih others]

theorem ofEntries_respelledEntries {value : Json} (chosen : String → String → Bool)
    (canonical : value.IsCanonical)
    (once : ∀ member ∈ value.members, EntryRecord.IsSpelledOnce member.2.members) :
    ofEntries (value.respelledEntries chosen) = ofEntries value := by
  cases canonical with
  | object members ascending each =>
    have same := decodeEntries_congr (fun key value => value.respelled (chosen key))
      fun member present => EntryRecord.decode_respelled (chosen member.1) (each member present)
        (once member present)
    exact congrArg (Except.map CallGraph.mk) same
  | null | boolean | number | string | array => rfl

variable {document : Json}

/-- An artifact makes the same graph, or fails in the same way, however the fields of its entries
are spelled. With other spellings it is again a document that a reader can make. -/
theorem ignoresSpelling (chosen : String → String → Bool) (canonical : document.IsCanonical)
    (once : document.IsSpelledOnce) :
    ofArtifact (document.respelledArtifact chosen) = ofArtifact document ∧
      (document.respelledArtifact chosen).IsCanonical := by
  refine ⟨?_, canonical.respelledArtifact chosen⟩
  have changed : (document.respelledArtifact chosen).member? artifactField =
      (document.member? artifactField).map (Json.respelledEntries chosen) :=
    (Json.member?_mapMembers artifactField document).trans
      (congrArg (Option.map · _) (funext fun _ => if_pos rfl))
  cases field : document.member? artifactField with
  | some value =>
    rw [field] at changed
    rw [ofArtifact_of_member? changed, ofArtifact_of_member? field]
    exact ofEntries_respelledEntries chosen (canonical.member? field) (once value field)
  | none =>
    rw [field] at changed
    cases document with
    | object members => exact (ofArtifact_of_absent changed).trans (ofArtifact_of_absent field).symm
    | null | boolean | number | string | array => rfl

/-- The spelling of call sites of one generation with the spelling of definitions of the other. -/
def mixedSpellings : Json :=
  .object [(artifactField, .object [("a.js:1:f", .object [("definedAt",
    .object [("b.js", .array [.int 2])]), ("referenced_at", .array [])])])]

theorem isCanonical_mixedSpellings : mixedSpellings.IsCanonical := by
  refine .object _ (List.pairwise_singleton _ _) ?_
  rw [List.forall_mem_singleton]
  refine .object _ (List.pairwise_singleton _ _) ?_
  rw [List.forall_mem_singleton]
  refine .object _ (List.pairwise_pair.mpr (by decide)) ?_
  rw [List.forall_mem_cons, List.forall_mem_singleton]
  constructor
  · refine .object _ (List.pairwise_singleton _ _) ?_
    rw [List.forall_mem_singleton]
    refine .array _ ?_
    rw [List.forall_mem_singleton]
    exact .number _
  · exact .array _ (List.forall_mem_nil _)

theorem isSpelledOnce_mixedSpellings : mixedSpellings.IsSpelledOnce := by
  intro entries field
  obtain rfl := Option.some.inj field
  rw [Json.members, List.forall_mem_singleton]
  exact ⟨by decide, by decide⟩

/-- Both fields of the entry in their other spelling. -/
theorem ignoresSpelling_mixed :
    mixedSpellings.IsCanonical ∧ mixedSpellings.IsSpelledOnce ∧ ∃ graph,
      mixedSpellings.respelledArtifact (fun _ _ => true) =
        .object [(artifactField, .object [("a.js:1:f", .object [("defined_at",
          .object [("b.js", .array [.int 2])]), ("referencedAt", .array [])])])] ∧
      ofArtifact mixedSpellings = .ok graph ∧
      ofArtifact (mixedSpellings.respelledArtifact fun _ _ => true) = .ok graph := by
  have same := (ignoresSpelling (fun _ _ => true) isCanonical_mixedSpellings
    isSpelledOnce_mixedSpellings).1
  refine ⟨isCanonical_mixedSpellings, isSpelledOnce_mixedSpellings,
    ⟨[("a.js:1:f", ⟨"f", .definitions [⟨"b.js", some 2⟩]⟩)]⟩, by rfl, by rfl, ?_⟩
  rw [same]
  rfl

-- A field in both spellings makes no graph, where either spelling alone would make one.
example :
    ofEntries (.object [("a.js:1:f", .object [("referencedAt", .array []),
      ("referenced_at", .array [])])]) =
        .error (.malformed "a.js:1:f" "duplicate field `referencedAt`") := by
  rfl

end CallGraph

end CallAtlas
