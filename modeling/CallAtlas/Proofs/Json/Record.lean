import CallAtlas.Json.Record
import CallAtlas.Proofs.Basic
import Mathlib.Data.List.Forall2

/-!
# Decoded lists and records

A list decodes if each of its items does. A record that was decoded holds, for each field, what the
value of that field decodes to, whatever else the record is written with and in which of its forms
it is written.
-/

namespace CallAtlas

/-- A list has a counterpart if each of its items has one. -/
theorem exists_forall₂_iff {α β : Type} {R : α → β → Prop} {as : List α} :
    (∃ bs, List.Forall₂ R as bs) ↔ ∀ a ∈ as, ∃ b, R a b := by
  induction as with
  | nil => exact iff_of_true ⟨[], .nil⟩ (List.forall_mem_nil _)
  | cons a rest ih =>
    rw [List.forall_mem_cons, ← ih]
    constructor
    · rintro ⟨_, _ | ⟨first, further⟩⟩
      exact ⟨⟨_, first⟩, _, further⟩
    · rintro ⟨⟨b, first⟩, others, further⟩
      exact ⟨b :: others, .cons first further⟩

namespace Decoder

variable {α : Type} {decode : Decoder α}

theorem items_eq_ok_iff {items : List Json} {decoded : List α} :
    Decoder.items decode items = .ok decoded ↔
      List.Forall₂ (fun item a => decode item = .ok a) items decoded := by
  induction items generalizing decoded with
  | nil =>
    constructor
    · intro taken
      obtain rfl := Except.ok.inj taken
      exact .nil
    · rintro ⟨⟩
      rfl
  | cons item rest ih =>
    constructor
    · intro taken
      obtain ⟨a, first, taken⟩ := Except.bind_eq_ok_iff.mp taken
      obtain ⟨as, further, taken⟩ := Except.bind_eq_ok_iff.mp taken
      obtain rfl := Except.ok.inj taken
      exact .cons first (ih.mp further)
    · rintro (_ | ⟨first, further⟩)
      apply Except.bind_eq_ok_iff.mpr
      exact ⟨_, first, Except.bind_eq_ok_iff.mpr ⟨_, ih.mpr further, rfl⟩⟩

theorem members_eq_ok_iff {members : List (String × Json)} {decoded : List (String × α)} :
    Decoder.members decode members = .ok decoded ↔
      List.Forall₂ (fun member pair => pair.1 = member.1 ∧ decode member.2 = .ok pair.2)
        members decoded := by
  induction members generalizing decoded with
  | nil =>
    constructor
    · intro taken
      obtain rfl := Except.ok.inj taken
      exact .nil
    · rintro ⟨⟩
      rfl
  | cons member rest ih =>
    constructor
    · intro taken
      obtain ⟨a, first, taken⟩ := Except.bind_eq_ok_iff.mp taken
      obtain ⟨as, further, taken⟩ := Except.bind_eq_ok_iff.mp taken
      obtain rfl := Except.ok.inj taken
      exact .cons ⟨rfl, first⟩ (ih.mp further)
    · rintro (_ | ⟨⟨same, first⟩, further⟩)
      apply Except.bind_eq_ok_iff.mpr
      refine ⟨_, first, Except.bind_eq_ok_iff.mpr ⟨_, ih.mpr further, ?_⟩⟩
      rw [← same]
      rfl

end Decoder

namespace Record

variable {α β : Type} (record : Record α)

/-- The value of a field: the member whose key stands for the field, or the item in its place. -/
def valueOf? (field : String) : Json → Option Json
  | .object members =>
    (members.find? fun member => record.fieldOf member.1 = field).map Prod.snd
  | .array items => (record.fields.zip items).lookup field
  | _ => none

/-- A part of a record that is read from one field and from no other. -/
structure Reads (field : String) (part : α → β) (decode : Decoder β) : Prop where
  own : ∀ {item before after}, record.read field item before = .ok after →
    decode item = .ok (part after)
  others : ∀ {other item before after}, other ≠ field →
    record.read other item before = .ok after → part after = part before

/-- What a part of a record is after reading, given the value of its field if there is one. -/
def Settles (part : α → β) (decode : Decoder β) (before after : α) : Option Json → Prop
  | none => part after = part before
  | some item => decode item = .ok (part after)

variable {record} {field : String} {part : α → β} {decode : Decoder β}

theorem Settles.of_kept {before next after : α} {found : Option Json}
    (settles : Settles part decode next after found) (kept : part next = part before) :
    Settles part decode before after found := by
  cases found with
  | none => exact Eq.trans settles kept
  | some item => exact settles

theorem decode_object_eq_ok {members : List (String × Json)} {value : α}
    (decoded : record.decode (.object members) = .ok value) :
    ∃ seen, record.readMembers [] record.blank members = .ok (seen, value) := by
  simp only [Record.decode, bind, Except.bind] at decoded
  split at decoded
  · cases decoded
  · rename_i last taken
    split at decoded
    · cases decoded
    · obtain rfl := Except.ok.inj decoded
      exact ⟨last.1, taken⟩

theorem decode_array_eq_ok {items : List Json} {value : α}
    (decoded : record.decode (.array items) = .ok value) :
    record.readFields record.blank record.fields items = .ok value := by
  simp only [Record.decode, bind, Except.bind] at decoded
  split at decoded
  · cases decoded
  · rename_i last taken
    split at decoded
    · cases decoded
    · split at decoded
      · cases decoded
      · obtain rfl := Except.ok.inj decoded
        exact taken

section Members

variable {key : String} {item : Json} {rest : List (String × Json)}

theorem valueOf?_cons_self (key : String) (item : Json) (rest : List (String × Json)) :
    record.valueOf? (record.fieldOf key) (.object ((key, item) :: rest)) = some item := by
  simp [valueOf?]

theorem valueOf?_cons_ne (different : record.fieldOf key ≠ field) :
    record.valueOf? field (.object ((key, item) :: rest)) =
      record.valueOf? field (.object rest) := by
  simp [valueOf?, different]

/-- What reading a member does: it is passed over, or it is the first of its field. -/
theorem readMembers_cons_eq_ok {seen seen' : List String} {before after : α}
    (decoded : record.readMembers seen before ((key, item) :: rest) = .ok (seen', after)) :
    (record.fieldOf key ∉ record.fields ∧
      record.readMembers seen before rest = .ok (seen', after)) ∨
    (record.fieldOf key ∉ seen ∧ ∃ next, record.read (record.fieldOf key) item before = .ok next ∧
      record.readMembers (record.fieldOf key :: seen) next rest = .ok (seen', after)) := by
  unfold Record.readMembers at decoded
  dsimp only at decoded
  split at decoded
  · rename_i foreign
    exact .inl ⟨foreign, decoded⟩
  · split at decoded
    · cases decoded
    · rename_i new
      exact .inr ⟨new, Except.bind_eq_ok_iff.mp decoded⟩

end Members

section Reading

variable (reads : record.Reads field part decode)

include reads

theorem Reads.settles {item : Json} {before next after : α}
    (taken : record.read field item before = .ok next) (kept : part after = part next) :
    Settles part decode before after (some item) := by
  show decode item = .ok (part after)
  rw [kept]
  exact reads.own taken

/-- Reading members, the value of a field is read once, and never if it was seen before. -/
theorem Reads.readMembers (known : field ∈ record.fields) {seen seen' : List String}
    {before after : α} {members : List (String × Json)}
    (decoded : record.readMembers seen before members = .ok (seen', after)) :
    Settles part decode before after (record.valueOf? field (.object members)) ∧
      (field ∈ seen → record.valueOf? field (.object members) = none) := by
  induction members generalizing seen before with
  | nil =>
    obtain ⟨-, rfl⟩ := Prod.mk.inj (Except.ok.inj decoded)
    exact ⟨rfl, fun _ => rfl⟩
  | cons member rest ih =>
    obtain ⟨key, item⟩ := member
    rcases readMembers_cons_eq_ok decoded with ⟨foreign, decoded⟩ | ⟨new, next, taken, decoded⟩
    · rw [valueOf?_cons_ne (fun same => foreign (same ▸ known))]
      exact ih decoded
    · obtain ⟨settles, once⟩ := ih decoded
      by_cases same : record.fieldOf key = field
      · subst same
        rw [once List.mem_cons_self] at settles
        rw [valueOf?_cons_self]
        exact ⟨reads.settles taken settles, fun again => absurd again new⟩
      · rw [valueOf?_cons_ne same]
        refine ⟨settles.of_kept (reads.others same taken), ?_⟩
        exact fun again => once (List.mem_cons_of_mem _ again)

/-- Reading items in the places of fields, the value of a field is read in its place. -/
theorem Reads.readFields {fields : List String} (distinct : fields.Nodup) {before after : α}
    {items : List Json} (decoded : record.readFields before fields items = .ok after) :
    Settles part decode before after ((fields.zip items).lookup field) := by
  induction fields generalizing before items with
  | nil =>
    obtain rfl := Except.ok.inj decoded
    rfl
  | cons name fields ih =>
    cases items with
    | nil =>
      obtain rfl := Except.ok.inj decoded
      rfl
    | cons item rest =>
      obtain ⟨absent, distinct⟩ := List.nodup_cons.mp distinct
      obtain ⟨next, taken, decoded⟩ := Except.bind_eq_ok_iff.mp decoded
      have settles := ih distinct decoded
      rw [List.zip_cons_cons, List.lookup_cons]
      by_cases same : field = name
      · subst same
        have further : (fields.zip rest).lookup field = none := by
          rw [List.lookup_eq_none_iff]
          rintro ⟨other, value⟩ member
          have place := (List.of_mem_zip member).1
          simpa using ne_of_mem_of_not_mem place absent |>.symm
        rw [further] at settles
        rw [beq_self_eq_true]
        exact reads.settles taken settles
      · rw [beq_eq_false_iff_ne.mpr same]
        exact settles.of_kept (reads.others (Ne.symm same) taken)

/-- What a decoded record holds for a field, in whichever form it is written. -/
theorem Reads.decode_eq_ok (known : field ∈ record.fields) (distinct : record.fields.Nodup)
    {value : Json} {after : α} (decoded : record.decode value = .ok after) :
    Settles part decode record.blank after (record.valueOf? field value) := by
  cases value with
  | object members =>
    obtain ⟨seen, taken⟩ := decode_object_eq_ok decoded
    exact (reads.readMembers known taken).1
  | array items => exact reads.readFields distinct (decode_array_eq_ok decoded)
  | null => cases decoded
  | boolean value => cases decoded
  | number value => cases decoded
  | string value => cases decoded

end Reading

end Record

end CallAtlas
