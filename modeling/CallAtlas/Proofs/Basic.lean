import Mathlib.Data.Finset.Card
import Mathlib.Data.List.Induction

/-!
# Binds, lookups and lists

What a bind or a map has come to, what a lookup finds, and what comes of a list one by one, as far
as the library does not know it.
-/

namespace CallAtlas

/-- A bind gives a value if both of its parts do. -/
theorem Except.bind_eq_ok_iff {ε α β : Type} {x : Except ε α} {f : α → Except ε β} {b : β} :
    (x >>= f) = .ok b ↔ ∃ a, x = .ok a ∧ f a = .ok b := by
  cases x with
  | error e => simp [bind, Except.bind]
  | ok a => simp [bind, Except.bind]

theorem Except.map_eq_ok_iff {ε α β : Type} {f : α → β} {x : Except ε α} {b : β} :
    x.map f = .ok b ↔ ∃ a, x = .ok a ∧ f a = b := by
  cases x with
  | error e => simp [Except.map]
  | ok a => simp [Except.map]

theorem Except.map_eq_error_iff {ε α β : Type} {f : α → β} {x : Except ε α} {e : ε} :
    x.map f = .error e ↔ x = .error e := by
  cases x with
  | error own => simp [Except.map]
  | ok a => simp [Except.map]

/-- Two options are the same if they are the same under every key. -/
theorem Option.eq_of_filter_eq {α κ : Type} [DecidableEq κ] (key : α → κ) {a b : Option α}
    (same : ∀ k, a.filter (fun x => key x = k) = b.filter (fun x => key x = k)) : a = b := by
  cases a with
  | none =>
    cases b with
    | none => rfl
    | some y => simpa [Option.filter_some] using same (key y)
  | some x =>
    have found := same (key x)
    rw [Option.filter_some, if_pos (decide_eq_true rfl)] at found
    exact (Option.filter_eq_some_iff.mp found.symm).1.symm

/-- A lookup stops at the first entry with the key. -/
theorem lookup_cons_eq_ite {α β : Type} [BEq α] [LawfulBEq α] [DecidableEq α] (key own : α)
    (value : β) (rest : List (α × β)) :
    ((own, value) :: rest).lookup key = if key = own then some value else rest.lookup key := by
  by_cases same : key = own
  · rw [if_pos same, same, List.lookup_cons_self]
  · rw [if_neg same, List.lookup_cons, beq_eq_false_iff_ne.mpr same]

/-- A lookup among those entries whose keys are kept. -/
theorem lookup_filter_key {α β : Type} [BEq α] [LawfulBEq α] (keep : α → Bool)
    (entries : List (α × β)) (key : α) :
    (entries.filter fun entry => keep entry.1).lookup key =
      if keep key then entries.lookup key else none := by
  induction entries with
  | nil => simp
  | cons entry rest ih =>
    obtain ⟨own, value⟩ := entry
    by_cases same : key = own
    · subst same
      cases kept : keep key with
      | true => simp [kept]
      | false => simp [kept, ih]
    · have apart : (key == own) = false := beq_eq_false_iff_ne.mpr same
      cases kept : keep own with
      | true => simp [kept, List.lookup_cons, apart, ih]
      | false => simp [kept, List.lookup_cons, apart, ih]

/-- All of a list is read if the first is, and then the rest. -/
theorem mapM_cons_eq_ok {ε α β : Type} {f : α → Except ε β} {a : α} {rest : List α} {bs : List β} :
    (a :: rest).mapM f = .ok bs ↔
      ∃ b others, f a = .ok b ∧ rest.mapM f = .ok others ∧ bs = b :: others := by
  rw [List.mapM_cons, Except.bind_eq_ok_iff]
  constructor
  · rintro ⟨b, first, read⟩
    obtain ⟨others, later, same⟩ := Except.bind_eq_ok_iff.mp read
    exact ⟨b, others, first, later, (Except.ok.inj same).symm⟩
  · rintro ⟨b, others, first, later, rfl⟩
    exact ⟨b, first, Except.bind_eq_ok_iff.mpr ⟨others, later, rfl⟩⟩

/-- What is read from a list is read from one of its items. -/
theorem exists_of_mem_mapM {ε α β : Type} {f : α → Except ε β} {items : List α} {bs : List β}
    (read : items.mapM f = .ok bs) {b : β} (member : b ∈ bs) : ∃ a ∈ items, f a = .ok b := by
  induction items generalizing bs with
  | nil =>
    obtain rfl : [] = bs := Except.ok.inj read
    cases member
  | cons a rest ih =>
    obtain ⟨own, others, first, later, rfl⟩ := mapM_cons_eq_ok.mp read
    rcases List.mem_cons.mp member with rfl | member
    · exact ⟨a, List.mem_cons_self, first⟩
    · obtain ⟨found, present, same⟩ := ih later member
      exact ⟨found, List.mem_cons_of_mem _ present, same⟩

/-- What is found with one item in front. -/
theorem filterMap_cons_eq_append {α β : Type} (f : α → Option β) (a : α) (rest : List α) :
    (a :: rest).filterMap f = (f a).toList ++ rest.filterMap f := by
  cases found : f a with
  | none => exact List.filterMap_cons_none found
  | some b => exact List.filterMap_cons_some found

/-- What is found with one item among others. -/
theorem perm_filterMap_middle {α β : Type} (f : α → Option β) (before behind : List α) (a : α) :
    ((before ++ a :: behind).filterMap f).Perm
      ((f a).toList ++ (before ++ behind).filterMap f) := by
  rw [← filterMap_cons_eq_append]
  exact List.perm_middle.filterMap f

/-- A list without its repetitions is as long as there are distinct items in it. -/
theorem length_eraseDups {α : Type} [DecidableEq α] (items : List α) :
    items.eraseDups.length = items.toFinset.card := by
  induction items using List.reverseRecOn with
  | nil => rfl
  | append_singleton items item ih =>
    rw [List.eraseDups_append, List.length_append, ih, List.toFinset_append, List.removeAll]
    by_cases known : item ∈ items
    · simp [known]
    · simp [known, Finset.union_comm _ {item}, List.eraseDups_cons]

end CallAtlas
