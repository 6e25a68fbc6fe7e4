import CallAtlas.Proofs.Json.Canonical
import CallAtlas.Server.Request

/-!
# Ids of requests

The id of a request is never null, because null counts for no id, and it is canonical, so that it
can be sent back as it was read.
-/

namespace CallAtlas.Request

open Json

/-- A value that can stand for the id of a request. -/
structure IsId (id : Json) : Prop where
  canonical : id.IsCanonical
  present : id ≠ .null

/-- The id of a draft, if it has one, can stand for the id of a request. -/
def Draft.Named (draft : Draft) : Prop :=
  ∀ id, draft.id = some (some id) → IsId id

theorem isId_of_readOptional {s : List UInt8} {taken : Taken (Option Json) s}
    (read : readOptional s = .ok taken) : ∀ id, taken.value = some id → IsId id := by
  obtain ⟨found, front, read⟩ := Except.bind_eq_ok_iff.mp read
  obtain rfl := Except.ok.inj read
  intro id same
  have kept : (if found.value.found = .null then none else some found.value) = some id := same
  split at kept
  · cases kept
  · rename_i different
    obtain rfl := Option.some.inj kept
    refine ⟨canonical_readValue fieldDepth _ _ front, ?_⟩
    intro null
    rw [null] at different
    exact different rfl

theorem Draft.Named.readField {draft : Draft} (named : draft.Named) {field : Field}
    {s : List UInt8} {taken : Taken Draft s} (read : readField draft field s = .ok taken) :
    taken.value.Named := by
  cases field with
  | version | method | params =>
    obtain ⟨found, -, read⟩ := Except.bind_eq_ok_iff.mp read
    obtain rfl := Except.ok.inj read
    exact named
  | id =>
    obtain ⟨found, front, read⟩ := Except.bind_eq_ok_iff.mp read
    obtain rfl := Except.ok.inj read
    intro id same
    exact isId_of_readOptional front id (Option.some.inj same)

theorem Draft.Named.finish {draft : Draft} (named : draft.Named) {request : Request}
    (finished : draft.finish = .ok request) : ∀ id, request.id = some id → IsId id := by
  unfold Draft.finish at finished
  split at finished
  · cases finished
  · cases finished
  · obtain rfl := Except.ok.inj finished
    intro id same
    apply named
    cases known : draft.id with
    | none =>
      rw [known] at same
      cases same
    | some given =>
      rw [known] at same
      exact congrArg some same

/-- What is read member by member has the id that a member has brought. -/
theorem isId_of_readMembers {draft : Draft} (named : draft.Named) {first : Bool}
    {s : List UInt8} {taken : Taken Request s} (read : readMembers draft first s = .ok taken) :
    ∀ id, taken.value.id = some id → IsId id := by
  rw [readMembers] at read
  obtain ⟨next, -, read⟩ := Except.bind_eq_ok_iff.mp read
  match next with
  | none =>
    dsimp only at read
    split at read
    · cases read
    · rename_i request finished
      obtain ⟨closed, -, read⟩ := Except.bind_eq_ok_iff.mp read
      obtain rfl := Except.ok.inj read
      exact named.finish finished
  | some ⟨front, le⟩ =>
    obtain ⟨key, -, read⟩ := Except.bind_eq_ok_iff.mp read
    dsimp only at read
    split at read
    · obtain ⟨colon, -, read⟩ := Except.bind_eq_ok_iff.mp read
      obtain ⟨behind, -, read⟩ := Except.bind_eq_ok_iff.mp read
      obtain ⟨more, rest, read⟩ := Except.bind_eq_ok_iff.mp read
      obtain rfl := Except.ok.inj read
      have shorter : behind.1.length < s.length :=
        Nat.lt_of_le_of_lt behind.2
          (Nat.lt_trans colon.shorter (Nat.lt_of_lt_of_le key.shorter le))
      have within : ∀ id, more.value.id = some id → IsId id := isId_of_readMembers named rest
      exact within
    · split at read
      · cases read
      · obtain ⟨colon, -, read⟩ := Except.bind_eq_ok_iff.mp read
        obtain ⟨found, field, read⟩ := Except.bind_eq_ok_iff.mp read
        obtain ⟨more, rest, read⟩ := Except.bind_eq_ok_iff.mp read
        obtain rfl := Except.ok.inj read
        have shorter : found.rest.length < s.length :=
          Nat.lt_trans found.shorter
            (Nat.lt_trans colon.shorter (Nat.lt_of_lt_of_le key.shorter le))
        have within : ∀ id, more.value.id = some id → IsId id :=
          isId_of_readMembers (named.readField field) rest
        exact within
termination_by s.length

theorem isId_of_readItem {number : Nat} {s : List UInt8} {taken : Taken (Option Json) s}
    (read : readItem number readOptional s = .ok taken) :
    ∀ id, taken.value = some id → IsId id := by
  obtain ⟨next, -, read⟩ := Except.bind_eq_ok_iff.mp read
  match next with
  | none => cases read
  | some ⟨front, le⟩ =>
    obtain ⟨found, inner, read⟩ := Except.bind_eq_ok_iff.mp read
    obtain rfl := Except.ok.inj read
    have within : ∀ id, found.value = some id → IsId id := isId_of_readOptional inner
    exact within

theorem isId_of_readItems {s : List UInt8} {found : Request × List UInt8}
    (read : readItems s = .ok found) : ∀ id, found.1.id = some id → IsId id := by
  obtain ⟨version, -, read⟩ := Except.bind_eq_ok_iff.mp read
  obtain ⟨id, item, read⟩ := Except.bind_eq_ok_iff.mp read
  obtain ⟨method, -, read⟩ := Except.bind_eq_ok_iff.mp read
  obtain ⟨⟨params, left⟩, -, read⟩ := Except.bind_eq_ok_iff.mp read
  obtain ⟨closed, -, read⟩ := Except.bind_eq_ok_iff.mp read
  obtain rfl := Except.ok.inj read
  have within : ∀ given, id.value = some given → IsId given := isId_of_readItem item
  exact within

/-- A value that is no request gives none. -/
theorem wrongKind_ne_ok {α : Type} (expected : Expected) (s : List UInt8) (found : α) :
    wrongKind expected s ≠ .ok found := by
  intro read
  unfold wrongKind at read
  split at read
  · cases read
  · dsimp only at read
    split at read
    · obtain ⟨left, -, read⟩ := Except.bind_eq_ok_iff.mp read
      cases read
    · split at read
      · obtain ⟨number, -, read⟩ := Except.bind_eq_ok_iff.mp read
        cases read
      · split at read
        · obtain ⟨text, -, read⟩ := Except.bind_eq_ok_iff.mp read
          cases read
        · split at read
          · cases read
          · split at read <;> cases read

theorem isId_of_readFront {s : List UInt8} {found : Request × List UInt8}
    (read : readFront s = .ok found) : ∀ id, found.1.id = some id → IsId id := by
  unfold readFront at read
  split at read
  · cases read
  · rename_i b rest front
    split at read
    · exact isId_of_readItems read
    · split at read
      · obtain ⟨members, inner, read⟩ := Except.bind_eq_ok_iff.mp read
        obtain rfl := Except.ok.inj read
        have none : ({} : Draft).Named := by
          intro id same
          cases same
        have within : ∀ id, members.value.id = some id → IsId id := isId_of_readMembers none inner
        exact within
      · exact absurd read (wrongKind_ne_ok _ _ _)

/-- The id of a request that is read from a line. -/
theorem isId_of_read {line : String} {request : Request} (read : Request.read line = .ok request) :
    ∀ id, request.id = some id → IsId id := by
  unfold Request.read at read
  dsimp only at read
  split at read
  · rename_i found readAll
    obtain rfl := Except.ok.inj read
    obtain ⟨⟨front, left⟩, readFront, readAll⟩ := Except.bind_eq_ok_iff.mp readAll
    obtain ⟨-, -, readAll⟩ := Except.bind_eq_ok_iff.mp readAll
    obtain rfl := Except.ok.inj readAll
    exact isId_of_readFront readFront
  · cases read

end CallAtlas.Request
