import CallAtlas.Proofs.Cache.Lane
import Mathlib.Data.List.Nodup

/-!
# Sound caches

The invariant of a cache in use: names and slots are not given twice, every call in flight holds
the slot that its project has now, and the lock of a slot is owned and waited for by the calls in
flight for its project in the order of their arrival.
-/

namespace CallAtlas

/-- The lock that calls in a line own and wait for. -/
def FairLock.ofLine (ids : List CallId) : FairLock :=
  ⟨ids.head?, ids.tail⟩

theorem FairLock.request_ofLine (ids : List CallId) (id : CallId) :
    (FairLock.ofLine ids).request id = .ofLine (ids ++ [id]) := by
  cases ids with
  | nil => rfl
  | cons first behind => rfl

theorem FairLock.leave_ofLine (ids : List CallId) (id : CallId) (distinct : ids.Nodup) :
    (FairLock.ofLine ids).leave id = .ofLine (ids.filter fun other => other ≠ id) := by
  cases ids with
  | nil => rfl
  | cons first behind =>
    obtain ⟨missing, -⟩ := List.nodup_cons.mp distinct
    by_cases equal : first = id
    · subst equal
      have kept : (first :: behind).filter (fun other => other ≠ first) = behind := by
        rw [List.filter_cons_of_neg (by simp), List.filter_eq_self]
        intro other member
        simpa using ne_of_mem_of_not_mem member missing
      rw [kept]
      simp [leave, ofLine]
    · simp [leave, ofLine, equal]

namespace Cache

/-- The invariant of a cache in use. -/
structure Sound (cache : Cache) : Prop where
  /-- No two calls in flight have the same name. -/
  names : (cache.calls.map fun call => call.id).Nodup
  /-- No two projects have the same slot. -/
  slots : (cache.slots.map Prod.snd).Nodup
  /-- The slots of projects were made. -/
  made : ∀ entry ∈ cache.slots, entry.2 < cache.made
  /-- A call in flight holds the slot that its project has now. -/
  current : ∀ call ∈ cache.calls, cache.slot? call.project = some call.slot
  /-- The calls in flight for a project own and wait for its lock in the order of their arrival. -/
  locks : ∀ project slot, cache.slot? project = some slot →
    (cache.store slot).lock = .ofLine ((cache.callsFor project).map fun call => call.id)

theorem sound_start : Sound {} where
  names := List.nodup_nil
  slots := List.nodup_nil
  made := by simp
  current := by simp
  locks := by simp [slot?]

section Reading

variable {cache : Cache} {project other : String} {slot : SlotId} {call : Call}

theorem mem_slots_of_slot? (found : cache.slot? project = some slot) :
    (project, slot) ∈ cache.slots := by
  obtain ⟨before, behind, split, -⟩ := List.lookup_eq_some_iff.mp found
  simp [split]

/-- A slot belongs to one project. -/
theorem Sound.project_unique (sound : cache.Sound) (found : cache.slot? project = some slot)
    (foundOther : cache.slot? other = some slot) : project = other := by
  have same := List.inj_on_of_nodup_map sound.slots (mem_slots_of_slot? found)
    (mem_slots_of_slot? foundOther) rfl
  exact congrArg Prod.fst same

/-- A call in flight is the only one of its name. -/
theorem Sound.call_unique (sound : cache.Sound) {a b : Call} (memberA : a ∈ cache.calls)
    (memberB : b ∈ cache.calls) (same : a.id = b.id) : a = b :=
  List.inj_on_of_nodup_map sound.names memberA memberB same

theorem mem_of_call? {id : CallId} (found : cache.call? id = some call) :
    call ∈ cache.calls ∧ call.id = id :=
  ⟨List.mem_of_find?_eq_some found, by simpa using List.find?_some found⟩

theorem mem_callsFor :
    call ∈ cache.callsFor project ↔ call ∈ cache.calls ∧ call.project = project := by
  simp [callsFor]

theorem Sound.callsFor_eq_nil (sound : cache.Sound) (absent : cache.slot? project = none) :
    cache.callsFor project = [] := by
  rw [List.eq_nil_iff_forall_not_mem]
  intro call member
  obtain ⟨inFlight, rfl⟩ := mem_callsFor.mp member
  rw [sound.current call inFlight] at absent
  cases absent

theorem Sound.callsFor_names (sound : cache.Sound) (project : String) :
    ((cache.callsFor project).map fun call => call.id).Nodup :=
  sound.names.sublist (List.filter_sublist.map _)

/-- The slot of a project is held by the cache and by the calls in flight for the project. -/
theorem Sound.handles_eq (sound : cache.Sound) (found : cache.slot? project = some slot) :
    cache.handles slot = 1 + (cache.callsFor project).length := by
  have entries : cache.slots.countP (fun entry => entry.2 = slot) = 1 := by
    have count : (cache.slots.map Prod.snd).count slot = 1 :=
      List.count_eq_one_of_mem sound.slots
        (List.mem_map.mpr ⟨_, mem_slots_of_slot? found, rfl⟩)
    rw [List.count, List.countP_map] at count
    refine (List.countP_congr ?_).trans count
    simp
  have holders : cache.calls.countP (fun call => call.slot = slot) =
      (cache.callsFor project).length := by
    rw [callsFor, List.countP_eq_length_filter]
    refine congrArg List.length (List.filter_congr ?_)
    intro call member
    have held := sound.current call member
    simp only [decide_eq_decide]
    constructor
    · rintro rfl
      exact sound.project_unique held found
    · rintro rfl
      exact Option.some.inj (held.symm.trans found)
  rw [handles, entries, holders]

end Reading

end Cache

end CallAtlas
