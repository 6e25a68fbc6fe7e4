import CallAtlas.Proofs.Json.Record

/-!
# The two forms of records

An object decodes as a record exactly if no field is written twice in it, every field that is
written takes its value, and the fields that must be present are. A list that is neither too short
nor too long decodes as the object that has its items under the fields in their declared order.
-/

namespace CallAtlas

namespace Record

variable {α : Type} (record : Record α)

/-- The fields that the keys of members stand for. -/
def claimed (members : List (String × Json)) : List String :=
  (members.map fun member => record.fieldOf member.1).filter (· ∈ record.fields)

/-- The members that a record is read from, under their fields. -/
def recognized (members : List (String × Json)) : List (String × Json) :=
  (members.map fun member => (record.fieldOf member.1, member.2)).filter (·.1 ∈ record.fields)

/-- A field takes a value. -/
def Takes (field : String) (item : Json) : Prop :=
  ∃ after, record.read field item record.blank = .ok after

/-- Which values a field takes does not depend on what was read before. -/
def IsSteady : Prop :=
  ∀ field item before, (∃ after, record.read field item before = .ok after) ↔
    record.Takes field item

/-- The fields differ, and each of them is a key that stands for it. -/
structure HasPlainFields : Prop where
  distinct : record.fields.Nodup
  own : ∀ field ∈ record.fields, record.fieldOf field = field

/-- Members that make up a record. -/
structure IsComplete (members : List (String × Json)) : Prop where
  once : (record.claimed members).Nodup
  taken : ∀ member ∈ members, record.fieldOf member.1 ∈ record.fields →
    record.Takes (record.fieldOf member.1) member.2
  present : ∀ field ∈ record.fields.take record.required, field ∈ record.claimed members

variable {record} {seen : List String} {before : α} {key : String} {item : Json}
  {members rest : List (String × Json)} {items : List Json}

section Objects

theorem claimed_of_foreign (foreign : record.fieldOf key ∉ record.fields) :
    record.claimed ((key, item) :: rest) = record.claimed rest := by
  simp [claimed, foreign]

theorem claimed_of_known (known : record.fieldOf key ∈ record.fields) :
    record.claimed ((key, item) :: rest) = record.fieldOf key :: record.claimed rest := by
  simp [claimed, known]

theorem readMembers_of_foreign (foreign : record.fieldOf key ∉ record.fields) :
    record.readMembers seen before ((key, item) :: rest) =
      record.readMembers seen before rest := by
  rw [readMembers, if_pos foreign]

theorem readMembers_of_seen (known : record.fieldOf key ∈ record.fields)
    (again : record.fieldOf key ∈ seen) :
    record.readMembers seen before ((key, item) :: rest) =
      .error (.duplicate (record.fieldOf key)) := by
  rw [readMembers, if_neg (not_not_intro known), if_pos again]

theorem readMembers_of_new (known : record.fieldOf key ∈ record.fields)
    (new : record.fieldOf key ∉ seen) :
    record.readMembers seen before ((key, item) :: rest) =
      record.read (record.fieldOf key) item before >>= fun next =>
        record.readMembers (record.fieldOf key :: seen) next rest := by
  rw [readMembers, if_neg (not_not_intro known), if_neg new]

theorem recognized_of_foreign (foreign : record.fieldOf key ∉ record.fields) :
    record.recognized ((key, item) :: rest) = record.recognized rest := by
  simp [recognized, foreign]

theorem recognized_of_known (known : record.fieldOf key ∈ record.fields) :
    record.recognized ((key, item) :: rest) =
      (record.fieldOf key, item) :: record.recognized rest := by
  simp [recognized, known]

/-- What is read of members depends on those that are recognized, and not on their keys. -/
theorem readMembers_recognized (plain : record.HasPlainFields) :
    record.readMembers seen before (record.recognized members) =
      record.readMembers seen before members := by
  induction members generalizing seen before with
  | nil => rfl
  | cons member rest ih =>
    obtain ⟨key, item⟩ := member
    by_cases known : record.fieldOf key ∈ record.fields
    · have own : record.fieldOf (record.fieldOf key) = record.fieldOf key := plain.own _ known
      have field : record.fieldOf (record.fieldOf key) ∈ record.fields := own.symm ▸ known
      rw [recognized_of_known known]
      by_cases again : record.fieldOf key ∈ seen
      · rw [readMembers_of_seen known again, readMembers_of_seen field (own.symm ▸ again), own]
      · rw [readMembers_of_new known again, readMembers_of_new field (own.symm ▸ again), own]
        exact congrArg _ (funext fun next => ih)
    · rw [recognized_of_foreign known, readMembers_of_foreign known, ih]

theorem decode_object_congr (plain : record.HasPlainFields) {other : List (String × Json)}
    (same : record.recognized members = record.recognized other) :
    record.decode (.object members) = record.decode (.object other) := by
  rw [decode, decode, ← readMembers_recognized plain, same, readMembers_recognized plain]

/-- Members are read if they claim new fields, each once, that take what is written. -/
theorem exists_readMembers_iff (steady : record.IsSteady) :
    (∃ last, record.readMembers seen before members = .ok last) ↔
      (record.claimed members).Nodup ∧ (∀ field ∈ record.claimed members, field ∉ seen) ∧
        ∀ member ∈ members, record.fieldOf member.1 ∈ record.fields →
          record.Takes (record.fieldOf member.1) member.2 := by
  induction members generalizing seen before with
  | nil => simp [readMembers, claimed]
  | cons member rest ih =>
    obtain ⟨key, item⟩ := member
    rw [List.forall_mem_cons]
    by_cases known : record.fieldOf key ∈ record.fields
    · rw [claimed_of_known known, List.nodup_cons, List.forall_mem_cons]
      by_cases again : record.fieldOf key ∈ seen
      · rw [readMembers_of_seen known again]
        simp [again]
      · rw [readMembers_of_new known again]
        constructor
        · rintro ⟨last, read⟩
          obtain ⟨next, first, further⟩ := Except.bind_eq_ok_iff.mp read
          obtain ⟨once, fresh, taken⟩ := ih.mp ⟨last, further⟩
          have apart : record.fieldOf key ∉ record.claimed rest :=
            fun claim => fresh _ claim List.mem_cons_self
          have later : ∀ field ∈ record.claimed rest, field ∉ seen :=
            fun field claim old => fresh field claim (List.mem_cons_of_mem _ old)
          exact ⟨⟨apart, once⟩, ⟨again, later⟩, fun _ => (steady _ _ _).mp ⟨next, first⟩, taken⟩
        · rintro ⟨⟨apart, once⟩, ⟨-, later⟩, own, taken⟩
          obtain ⟨next, first⟩ := (steady _ _ before).mpr (own known)
          have fresh : ∀ field ∈ record.claimed rest, field ∉ record.fieldOf key :: seen := by
            intro field claim old
            rcases List.mem_cons.mp old with rfl | old
            · exact apart claim
            · exact later field claim old
          obtain ⟨last, further⟩ := ih.mpr ⟨once, fresh, taken⟩
          exact ⟨last, Except.bind_eq_ok_iff.mpr ⟨next, first, further⟩⟩
    · rw [readMembers_of_foreign known, claimed_of_foreign known, ih]
      simp [known]

/-- What was seen in the end was seen before or is claimed by a member. -/
theorem mem_of_readMembers {last : List String} {after : α}
    (read : record.readMembers seen before members = .ok (last, after)) {field : String} :
    field ∈ last ↔ field ∈ seen ∨ field ∈ record.claimed members := by
  induction members generalizing seen before with
  | nil =>
    obtain ⟨rfl, -⟩ := Prod.mk.inj (Except.ok.inj read)
    simp [claimed]
  | cons member rest ih =>
    obtain ⟨key, item⟩ := member
    by_cases known : record.fieldOf key ∈ record.fields
    · by_cases again : record.fieldOf key ∈ seen
      · rw [readMembers_of_seen known again] at read
        cases read
      · rw [readMembers_of_new known again] at read
        obtain ⟨next, -, further⟩ := Except.bind_eq_ok_iff.mp read
        rw [ih further, claimed_of_known known, List.mem_cons, List.mem_cons]
        tauto
    · rw [readMembers_of_foreign known] at read
      rw [ih read, claimed_of_foreign known]

theorem absent?_eq_none_iff :
    record.absent? seen = none ↔ ∀ field ∈ record.fields.take record.required, field ∈ seen := by
  simp [absent?]

theorem decode_object_eq_ok_iff {after : α} :
    record.decode (.object members) = .ok after ↔
      ∃ last, record.readMembers [] record.blank members = .ok (last, after) ∧
        record.absent? last = none := by
  rw [decode, Except.bind_eq_ok_iff]
  constructor
  · rintro ⟨⟨last, own⟩, read, given⟩
    cases absent : record.absent? last with
    | some field =>
      simp only [absent] at given
      cases given
    | none =>
      simp only [absent] at given
      obtain rfl := Except.ok.inj given
      exact ⟨last, read, absent⟩
  · rintro ⟨last, read, absent⟩
    refine ⟨(last, after), read, ?_⟩
    simp only [absent]
    rfl

/-- The objects that decode are those whose members make up a record. -/
theorem exists_decode_object_iff (steady : record.IsSteady) :
    (∃ after, record.decode (.object members) = .ok after) ↔ record.IsComplete members := by
  simp only [decode_object_eq_ok_iff]
  constructor
  · rintro ⟨after, last, read, absent⟩
    obtain ⟨once, -, taken⟩ := (exists_readMembers_iff steady).mp ⟨_, read⟩
    refine ⟨once, taken, fun field needed => ?_⟩
    have seen := absent?_eq_none_iff.mp absent field needed
    exact ((mem_of_readMembers read).mp seen).resolve_left List.not_mem_nil
  · rintro ⟨once, taken, present⟩
    obtain ⟨⟨last, after⟩, read⟩ := (exists_readMembers_iff steady).mpr
      ⟨once, fun _ _ => List.not_mem_nil, taken⟩
    refine ⟨after, last, read, absent?_eq_none_iff.mpr fun field needed => ?_⟩
    exact (mem_of_readMembers read).mpr (.inr (present field needed))

end Objects

section Lists

/-- Items in the places of fields are read as the members that have them under these fields. -/
theorem readMembers_zip {fields : List String} (distinct : fields.Nodup)
    (own : ∀ field ∈ fields, record.fieldOf field = field)
    (known : ∀ field ∈ fields, field ∈ record.fields) (fresh : ∀ field ∈ fields, field ∉ seen) :
    record.readMembers seen before (fields.zip items) =
      (record.readFields before fields items).map
        fun after => ((fields.take items.length).reverse ++ seen, after) := by
  induction fields generalizing seen before items with
  | nil => simp [readMembers, readFields, Except.map]
  | cons field fields ih =>
    cases items with
    | nil => simp [readMembers, readFields, Except.map]
    | cons item rest =>
      obtain ⟨apart, distinct⟩ := List.nodup_cons.mp distinct
      obtain ⟨ownField, own⟩ := List.forall_mem_cons.mp own
      obtain ⟨knownField, known⟩ := List.forall_mem_cons.mp known
      obtain ⟨new, fresh⟩ := List.forall_mem_cons.mp fresh
      have later : ∀ other ∈ fields, other ∉ field :: seen := by
        intro other member old
        rcases List.mem_cons.mp old with rfl | old
        · exact apart member
        · exact fresh other member old
      rw [List.zip_cons_cons, readMembers_of_new (by rwa [ownField]) (by rwa [ownField]),
        ownField, readFields]
      cases first : record.read field item before with
      | error mismatch => rfl
      | ok next =>
        refine (ih distinct own known later).trans ?_
        rw [List.length_cons, List.take_succ_cons, List.reverse_cons, List.append_assoc]
        rfl

/-- A list of the right length is decoded as the object of the fields. -/
theorem decode_array (plain : record.HasPlainFields) (enough : record.required ≤ items.length)
    (fits : items.length ≤ record.fields.length) :
    record.decode (.array items) = record.decode (.object (record.fields.zip items)) := by
  have read : record.readMembers [] record.blank (record.fields.zip items) =
      (record.readFields record.blank record.fields items).map
        fun after => ((record.fields.take items.length).reverse ++ [], after) :=
    readMembers_zip plain.distinct plain.own (fun _ => id) fun _ _ => List.not_mem_nil
  have present : record.absent? ((record.fields.take items.length).reverse ++ []) = none := by
    refine absent?_eq_none_iff.mpr fun field needed => ?_
    rw [List.append_nil, List.mem_reverse]
    exact (List.take_sublist_take_left enough).subset needed
  rw [decode, decode, read]
  cases record.readFields record.blank record.fields items with
  | error mismatch => rfl
  | ok after =>
    simp only [Except.map, bind, Except.bind, present, if_neg (Nat.not_lt.mpr enough),
      if_neg (Nat.not_lt.mpr fits)]

/-- A list that decodes is neither too short nor too long. -/
theorem bounds_of_decode_array {after : α} (decoded : record.decode (.array items) = .ok after) :
    record.required ≤ items.length ∧ items.length ≤ record.fields.length := by
  rw [decode, Except.bind_eq_ok_iff] at decoded
  obtain ⟨last, -, given⟩ := decoded
  split at given
  · cases given
  · split at given
    · cases given
    · omega

/-- The lists that decode are those of the right length whose object decodes. -/
theorem decode_array_eq_ok_iff (plain : record.HasPlainFields) {after : α} :
    record.decode (.array items) = .ok after ↔
      record.required ≤ items.length ∧ items.length ≤ record.fields.length ∧
        record.decode (.object (record.fields.zip items)) = .ok after := by
  constructor
  · intro decoded
    obtain ⟨enough, fits⟩ := bounds_of_decode_array decoded
    rw [decode_array plain enough fits] at decoded
    exact ⟨enough, fits, decoded⟩
  · rintro ⟨enough, fits, decoded⟩
    rwa [decode_array plain enough fits]

end Lists

/-- The values that stand for a record: an object of its members, or a list of its fields. -/
inductive Form (record : Record α) : Json → Prop where
  | object {members : List (String × Json)} (complete : record.IsComplete members) :
      Form record (.object members)
  | array {items : List Json} (enough : record.required ≤ items.length)
      (fits : items.length ≤ record.fields.length)
      (complete : record.IsComplete (record.fields.zip items)) : Form record (.array items)

/-- The values that decode are those that stand for a record. -/
theorem exists_decode_eq_ok_iff (steady : record.IsSteady) (plain : record.HasPlainFields)
    {value : Json} : (∃ after, record.decode value = .ok after) ↔ record.Form value := by
  constructor
  · rintro ⟨after, decoded⟩
    cases value with
    | object members => exact .object ((exists_decode_object_iff steady).mp ⟨after, decoded⟩)
    | array items =>
      obtain ⟨enough, fits, decoded⟩ := (decode_array_eq_ok_iff plain).mp decoded
      exact .array enough fits ((exists_decode_object_iff steady).mp ⟨after, decoded⟩)
    | null | boolean | number | string => cases decoded
  · rintro (complete | ⟨enough, fits, complete⟩)
    · exact (exists_decode_object_iff steady).mpr complete
    · obtain ⟨after, decoded⟩ := (exists_decode_object_iff steady).mpr complete
      exact ⟨after, (decode_array_eq_ok_iff plain).mpr ⟨enough, fits, decoded⟩⟩

/-- What is written for a field that must be present, if the keys are the fields. -/
theorem IsComplete.exists_lookup (complete : record.IsComplete members)
    (spelled : ∀ key, record.fieldOf key = key) {field : String}
    (needed : field ∈ record.fields.take record.required) :
    ∃ item, members.lookup field = some item ∧ record.Takes field item := by
  have claim := complete.present field needed
  simp only [claimed, spelled, List.mem_filter, List.mem_map, decide_eq_true_eq] at claim
  obtain ⟨⟨member, present, rfl⟩, known⟩ := claim
  cases found : members.lookup member.1 with
  | none => exact absurd rfl (bne_iff_ne.mp (List.lookup_eq_none_iff.mp found member present))
  | some item =>
    obtain ⟨front, behind, split, -⟩ := List.lookup_eq_some_iff.mp found
    have taken := complete.taken (member.1, item) (by simp [split])
    rw [spelled] at taken
    exact ⟨item, rfl, taken known⟩

end Record

end CallAtlas
