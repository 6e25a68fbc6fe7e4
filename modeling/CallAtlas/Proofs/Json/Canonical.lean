import CallAtlas.Json.Reader
import CallAtlas.Proofs.Basic

/-!
# Canonical values

Every document that is read from bytes is canonical: at every level the keys of its objects ascend
strictly.
-/

namespace CallAtlas

namespace Json

/-- The keys of members ascend strictly. -/
def Ascending {α : Type} (members : List (String × α)) : Prop :=
  members.Pairwise fun earlier later => earlier.1 < later.1

/-- The members of every object inside the value stand in ascending order of their keys. -/
inductive IsCanonical : Json → Prop where
  | null : IsCanonical .null
  | boolean (value : Bool) : IsCanonical (.boolean value)
  | number (value : Number) : IsCanonical (.number value)
  | string (value : String) : IsCanonical (.string value)
  | array (items : List Json) (each : ∀ item ∈ items, IsCanonical item) :
    IsCanonical (.array items)
  | object (members : List (String × Json)) (ascending : Ascending members)
      (each : ∀ member ∈ members, IsCanonical member.2) : IsCanonical (.object members)

section Sorting

variable {α : Type}

theorem mem_insertMember {key : String} {value : α} {members : List (String × α)}
    {member : String × α} (found : member ∈ insertMember key value members) :
    member = (key, value) ∨ member ∈ members := by
  induction members with
  | nil => exact .inl (List.mem_singleton.mp found)
  | cons first rest ih =>
    unfold insertMember at found
    split at found
    · exact List.mem_cons.mp found
    · split at found
      · rcases List.mem_cons.mp found with same | behind
        · exact .inl same
        · exact .inr (List.mem_cons_of_mem _ behind)
      · rcases List.mem_cons.mp found with rfl | behind
        · exact .inr List.mem_cons_self
        · exact (ih behind).imp_right (List.mem_cons_of_mem _)

theorem ascending_insertMember (key : String) (value : α) {members : List (String × α)}
    (ascending : Ascending members) : Ascending (insertMember key value members) := by
  induction members with
  | nil => exact List.pairwise_singleton _ _
  | cons first rest ih =>
    obtain ⟨above, ascendingRest⟩ := List.pairwise_cons.mp ascending
    unfold insertMember
    split
    · rename_i below
      refine List.pairwise_cons.mpr ⟨?_, ascending⟩
      intro member found
      rcases List.mem_cons.mp found with rfl | behind
      · exact below
      · exact String.lt_trans below (above member behind)
    · split
      · rename_i same
        refine List.pairwise_cons.mpr ⟨?_, ascendingRest⟩
        intro member behind
        rw [show (key, value).1 = first.1 from same]
        exact above member behind
      · rename_i notBelow different
        have below : first.1 < key :=
          Std.lt_of_le_of_ne (String.not_lt.mp notBelow) (Ne.symm different)
        refine List.pairwise_cons.mpr ⟨?_, ih ascendingRest⟩
        intro member found
        rcases mem_insertMember found with rfl | behind
        · exact below
        · exact above member behind

theorem foldl_insertMember (sorted members : List (String × α)) (ascending : Ascending sorted) :
    Ascending (members.foldl (fun sorted member => insertMember member.1 member.2 sorted) sorted) ∧
      ∀ member ∈ members.foldl (fun sorted member => insertMember member.1 member.2 sorted) sorted,
        member ∈ sorted ∨ member ∈ members := by
  induction members generalizing sorted with
  | nil => exact ⟨ascending, fun _ found => .inl found⟩
  | cons first rest ih =>
    obtain ⟨sortedAll, within⟩ := ih _ (ascending_insertMember first.1 first.2 ascending)
    refine ⟨sortedAll, ?_⟩
    intro member found
    rcases within member found with before | behind
    · rcases mem_insertMember before with rfl | before
      · exact .inr List.mem_cons_self
      · exact .inl before
    · exact .inr (List.mem_cons_of_mem _ behind)

/-- Members are sorted strictly. -/
theorem ascending_sortMembers (members : List (String × α)) : Ascending (sortMembers members) :=
  (foldl_insertMember [] members .nil).1

theorem mem_sortMembers {members : List (String × α)} {member : String × α}
    (found : member ∈ sortMembers members) : member ∈ members :=
  ((foldl_insertMember [] members .nil).2 member found).resolve_left (by simp)

end Sorting

/-! ## What is read is canonical -/

/-- A reader gives nothing but canonical values. -/
def ReadsCanonical (reading : Reading Json) : Prop :=
  ∀ (s : List UInt8) (taken : Taken Json s), reading s = .ok taken → taken.value.IsCanonical

theorem canonical_readItems {readValue : Reading Json} (reads : ReadsCanonical readValue)
    {items : List Json} (each : ∀ item ∈ items, item.IsCanonical) {s : List UInt8}
    {taken : Taken (List Json) s} (read : readItems readValue items s = .ok taken) :
    ∀ item ∈ taken.value, item.IsCanonical := by
  rw [readItems] at read
  obtain ⟨next, -, read⟩ := Except.bind_eq_ok_iff.mp read
  match next with
  | none =>
    obtain ⟨closed, -, read⟩ := Except.bind_eq_ok_iff.mp read
    obtain rfl := Except.ok.inj read
    intro item member
    exact each item (List.mem_reverse.mp member)
  | some ⟨front, le⟩ =>
    obtain ⟨item, found, read⟩ := Except.bind_eq_ok_iff.mp read
    obtain ⟨more, rest, read⟩ := Except.bind_eq_ok_iff.mp read
    obtain rfl := Except.ok.inj read
    have shorter : item.rest.length < s.length := Nat.lt_of_lt_of_le item.shorter le
    have longer : ∀ other ∈ item.value :: items, other.IsCanonical := by
      intro other member
      rcases List.mem_cons.mp member with rfl | member
      · exact reads _ _ found
      · exact each other member
    have within : ∀ other ∈ more.value, other.IsCanonical := canonical_readItems reads longer rest
    exact within
termination_by s.length

theorem canonical_readMembers {readValue : Reading Json} (reads : ReadsCanonical readValue)
    {members : List (String × Json)} (each : ∀ member ∈ members, member.2.IsCanonical)
    {s : List UInt8} {taken : Taken (List (String × Json)) s}
    (read : readMembers readValue members s = .ok taken) :
    ∀ member ∈ taken.value, member.2.IsCanonical := by
  rw [readMembers] at read
  obtain ⟨next, -, read⟩ := Except.bind_eq_ok_iff.mp read
  match next with
  | none =>
    obtain ⟨closed, -, read⟩ := Except.bind_eq_ok_iff.mp read
    obtain rfl := Except.ok.inj read
    intro member found
    exact each member (List.mem_reverse.mp found)
  | some ⟨front, le⟩ =>
    obtain ⟨key, -, read⟩ := Except.bind_eq_ok_iff.mp read
    obtain ⟨colon, -, read⟩ := Except.bind_eq_ok_iff.mp read
    obtain ⟨item, found, read⟩ := Except.bind_eq_ok_iff.mp read
    obtain ⟨more, rest, read⟩ := Except.bind_eq_ok_iff.mp read
    obtain rfl := Except.ok.inj read
    have shorter : item.rest.length < s.length :=
      Nat.lt_trans item.shorter (Nat.lt_trans colon.shorter (Nat.lt_of_lt_of_le key.shorter le))
    have longer : ∀ other ∈ (key.value, item.value) :: members, other.2.IsCanonical := by
      intro other member
      rcases List.mem_cons.mp member with rfl | member
      · exact reads _ _ found
      · exact each other member
    have within : ∀ other ∈ more.value, other.2.IsCanonical :=
      canonical_readMembers reads longer rest
    exact within
termination_by s.length

theorem canonical_wordOf? {b : UInt8} {word : List UInt8} {value : Json}
    (found : wordOf? b = some (word, value)) : value.IsCanonical := by
  unfold wordOf? at found
  split at found
  · cases found
    exact .null
  · split at found
    · cases found
      exact .boolean true
    · split at found
      · cases found
        exact .boolean false
      · cases found

theorem value_readWord {word : List UInt8} {value : Json} {s : List UInt8}
    {found : { found : Json × List UInt8 // found.2.length ≤ s.length }}
    (read : readWord word value s = .ok found) : found.val.1 = value := by
  unfold readWord at read
  split at read
  · cases read
  · cases read
    rfl

theorem canonical_readToken {openList openObject : Reading Json} (lists : ReadsCanonical openList)
    (objects : ReadsCanonical openObject) : ReadsCanonical (readToken openList openObject) := by
  intro s taken read
  unfold readToken at read
  split at read
  · cases read
  · split at read
    · rename_i word value found
      obtain ⟨rest, readRest, read⟩ := Except.bind_eq_ok_iff.mp read
      obtain rfl := Except.ok.inj read
      show rest.val.1.IsCanonical
      rw [value_readWord readRest]
      exact canonical_wordOf? found
    · split at read
      · obtain ⟨number, -, read⟩ := Except.bind_eq_ok_iff.mp read
        obtain rfl := Except.ok.inj read
        exact .number _
      · split at read
        · obtain ⟨text, -, read⟩ := Except.bind_eq_ok_iff.mp read
          obtain rfl := Except.ok.inj read
          exact .string _
        · split at read
          · obtain ⟨items, found, read⟩ := Except.bind_eq_ok_iff.mp read
            obtain rfl := Except.ok.inj read
            have canonical := lists _ _ found
            exact canonical
          · split at read
            · obtain ⟨members, found, read⟩ := Except.bind_eq_ok_iff.mp read
              obtain rfl := Except.ok.inj read
              have canonical := objects _ _ found
              exact canonical
            · cases read

theorem canonical_readValue (depth : Nat) : ReadsCanonical (readValue depth) := by
  induction depth with
  | zero =>
    have refuses : ReadsCanonical fun s => faultAt .depth s := by
      intro s taken read
      cases read
    exact canonical_readToken refuses refuses
  | succ depth ih =>
    refine canonical_readToken ?_ ?_
    · intro s taken read
      obtain ⟨items, found, read⟩ := Except.bind_eq_ok_iff.mp read
      obtain rfl := Except.ok.inj read
      exact .array _ (canonical_readItems ih (by simp) found)
    · intro s taken read
      obtain ⟨members, found, read⟩ := Except.bind_eq_ok_iff.mp read
      obtain rfl := Except.ok.inj read
      have each := canonical_readMembers ih (by simp) found
      exact .object _ (ascending_sortMembers _) fun member present =>
        each member (mem_sortMembers present)

/-- Every document that is read is canonical. -/
theorem isCanonical_of_read {bytes : List UInt8} {document : Json}
    (read : Json.read bytes = .ok document) : document.IsCanonical := by
  unfold Json.read at read
  dsimp only at read
  split at read
  · rename_i value readAll
    obtain rfl := Except.ok.inj read
    obtain ⟨found, readFront, readAll⟩ := Except.bind_eq_ok_iff.mp readAll
    obtain ⟨-, -, readAll⟩ := Except.bind_eq_ok_iff.mp readAll
    obtain rfl := Except.ok.inj readAll
    exact canonical_readValue depthLimit _ _ readFront
  · cases read

end Json

end CallAtlas
