import CallAtlas.Proofs.Graph.Artifact
import Mathlib.Data.List.Induction

/-!
# Values in canonical form

The canonical form of a value is the value itself if it is canonical. Sorting the members of an
object changes nothing of what is found under a key.
-/

namespace CallAtlas.Json

section Sorting

variable {α : Type}

theorem lookup_insertMember (key other : String) (value : α) (members : List (String × α)) :
    (insertMember key value members).lookup other =
      if other = key then some value else members.lookup other := by
  induction members with
  | nil => exact lookup_cons_eq_ite other key value []
  | cons first rest ih =>
    obtain ⟨own, before⟩ := first
    unfold insertMember
    split
    · exact lookup_cons_eq_ite other key value _
    · split
      · rename_i replaced
        subst replaced
        rw [lookup_cons_eq_ite, lookup_cons_eq_ite]
        by_cases same : other = key
        · rw [if_pos same, if_pos same]
        · rw [if_neg same, if_neg same, if_neg same]
      · rename_i different
        rw [lookup_cons_eq_ite, lookup_cons_eq_ite, ih]
        by_cases same : other = key
        · subst same
          rw [if_neg different, if_pos rfl, if_pos rfl]
        · rw [if_neg same, if_neg same]

theorem lookup_foldl_insertMember (key : String) (sorted members : List (String × α)) :
    (members.foldl (fun sorted member => insertMember member.1 member.2 sorted) sorted).lookup key =
      (members.reverse.lookup key).or (sorted.lookup key) := by
  induction members generalizing sorted with
  | nil => rfl
  | cons first rest ih =>
    obtain ⟨own, value⟩ := first
    have single : List.lookup key [(own, value)] = if key = own then some value else none :=
      lookup_cons_eq_ite key own value []
    rw [List.foldl_cons, ih, lookup_insertMember, List.reverse_cons, List.lookup_append, single,
      Option.or_assoc]
    congr 1
    split <;> rfl

/-- Of several members with one key the last is found among the sorted members. -/
theorem lookup_sortMembers (key : String) (members : List (String × α)) :
    (sortMembers members).lookup key = members.reverse.lookup key := by
  rw [sortMembers, lookup_foldl_insertMember]
  exact Option.or_none

theorem perm_insertMember {key : String} (value : α) {members : List (String × α)}
    (new : ∀ member ∈ members, key ≠ member.1) :
    (insertMember key value members).Perm ((key, value) :: members) := by
  induction members with
  | nil => exact .refl _
  | cons first rest ih =>
    obtain ⟨own, before⟩ := first
    obtain ⟨different, new⟩ := List.forall_mem_cons.mp new
    have different : key ≠ own := different
    rw [insertMember, if_neg different]
    split
    · exact .refl _
    · exact ((ih new).cons _).trans (.swap _ _ _)

/-- Sorting members with different keys keeps all of them. -/
theorem perm_sortMembers {members : List (String × α)} (distinct : (members.map Prod.fst).Nodup) :
    (sortMembers members).Perm members := by
  induction members using List.reverseRecOn with
  | nil => exact .refl _
  | append_singleton front last ih =>
    rw [List.map_append, List.nodup_append] at distinct
    obtain ⟨distinct, -, apart⟩ := distinct
    have kept := ih distinct
    rw [sortMembers, List.foldl_concat, ← sortMembers]
    refine (perm_insertMember last.2 fun member found same => ?_).trans
      ((kept.cons last).trans (List.perm_append_singleton last front).symm)
    have there := List.mem_map_of_mem (f := Prod.fst) (kept.subset found)
    exact apart _ there last.1 (by simp) same.symm

/-- A member with a key above all others comes last. -/
theorem insertMember_of_above {key : String} {value : α} {members : List (String × α)}
    (above : ∀ member ∈ members, member.1 < key) :
    insertMember key value members = members ++ [(key, value)] := by
  induction members with
  | nil => rfl
  | cons first rest ih =>
    have below := above first List.mem_cons_self
    rw [insertMember, if_neg (String.lt_asymm below), if_neg (String.ne_of_lt below).symm,
      ih fun member found => above member (List.mem_cons_of_mem _ found)]
    rfl

/-- Members in ascending order stay as they are. -/
theorem sortMembers_of_ascending {members : List (String × α)} (ascending : Ascending members) :
    sortMembers members = members := by
  induction members using List.reverseRecOn with
  | nil => rfl
  | append_singleton front last ih =>
    obtain ⟨ordered, -, above⟩ := List.pairwise_append.mp ascending
    rw [sortMembers, List.foldl_concat, ← sortMembers, ih ordered]
    exact insertMember_of_above fun member found => above member found last (by simp)

end Sorting

theorem canonicalItems_eq_self {items : List Json}
    (each : ∀ item ∈ items, item.canonical = item) : canonicalItems items = items := by
  induction items with
  | nil => rfl
  | cons item rest ih =>
    rw [canonicalItems, each item List.mem_cons_self,
      ih fun other member => each other (List.mem_cons_of_mem _ member)]

theorem canonicalMembers_eq_self {members : List (String × Json)}
    (each : ∀ member ∈ members, member.2.canonical = member.2) :
    canonicalMembers members = members := by
  induction members with
  | nil => rfl
  | cons member rest ih =>
    obtain ⟨key, value⟩ := member
    have own : value.canonical = value := each (key, value) List.mem_cons_self
    rw [canonicalMembers, own, ih fun other found => each other (List.mem_cons_of_mem _ found)]

/-- A canonical value is in canonical form. -/
theorem IsCanonical.canonical_eq {value : Json} (canonical : value.IsCanonical) :
    value.canonical = value := by
  induction canonical with
  | null | boolean | number | string => rfl
  | array items each ih => rw [Json.canonical, canonicalItems_eq_self ih]
  | object members ascending each ih =>
    rw [Json.canonical, canonicalMembers_eq_self ih, sortMembers_of_ascending ascending]

theorem lookup_canonicalMembers (key : String) (members : List (String × Json)) :
    (canonicalMembers members).lookup key = (members.lookup key).map Json.canonical := by
  induction members with
  | nil => rfl
  | cons member rest ih =>
    obtain ⟨own, value⟩ := member
    rw [canonicalMembers, List.lookup_cons, List.lookup_cons, ih]
    split <;> rfl

theorem canonicalMembers_eq_map (members : List (String × Json)) :
    canonicalMembers members = members.map fun member => (member.1, member.2.canonical) := by
  induction members with
  | nil => rfl
  | cons member rest ih => rw [canonicalMembers, ih]; rfl

theorem canonicalMembers_reverse (members : List (String × Json)) :
    (canonicalMembers members).reverse = canonicalMembers members.reverse := by
  rw [canonicalMembers_eq_map, canonicalMembers_eq_map, List.map_reverse]

/-- What stands under a key of an object in canonical form. -/
theorem member?_canonical (key : String) (members : List (String × Json)) :
    (canonical (.object members)).member? key =
      (members.reverse.lookup key).map Json.canonical := by
  rw [canonical, member?, lookup_sortMembers, canonicalMembers_reverse, lookup_canonicalMembers]

end CallAtlas.Json
