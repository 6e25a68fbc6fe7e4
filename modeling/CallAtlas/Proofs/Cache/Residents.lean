import CallAtlas.Proofs.Cache.Reachable
import CallAtlas.Proofs.Json.Sorted
import Mathlib.Data.List.Sort

/-!
# Resident projects

No project has two slots. So the resident projects are those whose graph is found, each named once
and in ascending order, and caches that find graphs for the same projects name the same.
-/

namespace CallAtlas

namespace Json

variable {α : Type}

theorem isSome_lookup_iff {key : String} {members : List (String × α)} :
    (members.lookup key).isSome ↔ key ∈ members.map Prod.fst := by
  rw [List.lookup_isSome_iff, List.mem_map]
  exact ⟨fun ⟨member, present, same⟩ => ⟨member, present, (beq_iff_eq.mp same).symm⟩,
    fun ⟨member, present, same⟩ => ⟨member, present, beq_iff_eq.mpr same.symm⟩⟩

/-- Sorting loses no key. -/
theorem mem_keys_sortMembers {key : String} {members : List (String × α)} :
    key ∈ (sortMembers members).map Prod.fst ↔ key ∈ members.map Prod.fst := by
  rw [← isSome_lookup_iff, lookup_sortMembers, isSome_lookup_iff, List.map_reverse,
    List.mem_reverse]

end Json

namespace Cache

/-- Every slot that a project is entered with is the slot of the project: no project has two. -/
def Keyed (cache : Cache) : Prop :=
  ∀ entry ∈ cache.slots, cache.slot? entry.1 = some entry.2

theorem keyed_start : Keyed {} := nofun

section Keeping

variable {cache : Cache} (keyed : cache.Keyed) (retention : Retention)

include keyed

theorem Keyed.openSlot (project : String) : (cache.openSlot project).1.Keyed := by
  unfold Cache.openSlot
  cases absent : cache.slot? project with
  | some slot => exact keyed
  | none =>
    intro entry member
    rcases List.mem_cons.mp member with rfl | member
    · exact slot?_make_self cache project
    · exact slot?_make_of_slot? absent (keyed entry member)

theorem Keyed.release (project : String) (slot : SlotId) :
    (cache.release retention project slot).Keyed := by
  unfold Cache.release
  split
  · intro entry member
    obtain ⟨member, other⟩ := List.mem_filter.mp member
    rw [slot?_forget_ne cache (of_decide_eq_true other)]
    exact keyed entry member
  · exact keyed

theorem Keyed.finish (call : Call) (result : Except Failure Loaded) :
    (cache.finish retention call result).Keyed := by
  cases result with
  | ok loaded => exact keyed
  | error failure => exact keyed.release retention call.project call.slot

theorem Keyed.pollLoader (call : Call) (suspensions : Nat) :
    (cache.pollLoader retention call suspensions).1.Keyed := by
  cases suspensions with
  | zero =>
    have settled : (cache.settle call).Keyed := keyed
    exact settled.finish retention call call.outcome
  | succ left => exact keyed

theorem Keyed.pollCall (call : Call) : (cache.pollCall retention call).1.Keyed := by
  unfold Cache.pollCall Cache.pollOwner
  split
  · cases call.stage with
    | loading suspensions => exact keyed.pollLoader retention call suspensions
    | waiting =>
      dsimp only
      cases (cache.store call.slot).turn call.failuresSeen with
      | takes loaded => exact keyed.finish retention call (.ok loaded)
      | shares failure => exact keyed.finish retention call (.error failure)
      | loads => exact keyed.pollLoader retention call call.load.suspensions
  · exact keyed

theorem Keyed.cancel (id : CallId) : (cache.cancel id).1.Keyed := by
  unfold Cache.cancel
  cases cache.call? id with
  | none => exact keyed
  | some call => exact keyed

theorem Keyed.call (project : String) (id : CallId) (load : Load) :
    (cache.call retention project id load).1.Keyed := by
  show (Cache.arrive retention (cache.openSlot project).1 project _ id load).1.Keyed
  unfold Cache.arrive
  split
  · exact keyed.openSlot project
  · have enrolled (call : Call) : ((cache.openSlot project).1.enroll call).Keyed :=
      keyed.openSlot project
    exact (enrolled _).pollCall retention _

theorem Keyed.getOrLoad (project : String) (load : String → Except Failure Json) :
    (cache.getOrLoad project load).1.Keyed := by
  have opened := keyed.openSlot project
  unfold Cache.getOrLoad
  dsimp only
  split
  · exact opened
  · have settled (call : Call) :
        (((cache.openSlot project).1.enroll call).settle call).Keyed := opened
    exact (settled _).finish .dropIdle _ _

/-- A step gives no project a second slot. -/
theorem Keyed.act (step : Step) : (cache.act retention step).1.Keyed := by
  cases step with
  | call id project load => exact (keyed.cancel id).call retention project id load
  | poll id =>
    show (cache.poll retention id).1.Keyed
    unfold Cache.poll
    cases cache.call? id with
    | none => exact keyed
    | some call => exact keyed.pollCall retention call
  | cancel id => exact keyed.cancel id
  | get project => exact keyed

omit retention

/-- The resident projects are those whose graph is found. -/
theorem Keyed.mem_residentProjects {project : String} :
    project ∈ cache.residentProjects ↔ (cache.resident? project).isSome = true := by
  unfold residentProjects resident?
  rw [Json.mem_keys_sortMembers]
  constructor
  · intro member
    obtain ⟨entry, present, rfl⟩ := List.mem_map.mp member
    obtain ⟨entered, there⟩ := List.mem_filter.mp present
    rw [keyed entry entered]
    exact there
  · intro there
    obtain ⟨loaded, resident⟩ := Option.isSome_iff_exists.mp there
    obtain ⟨slot, found, graph⟩ := Option.bind_eq_some_iff.mp resident
    refine List.mem_map.mpr ⟨(project, slot), List.mem_filter.mpr ⟨?_, ?_⟩, rfl⟩
    · exact mem_slots_of_slot? found
    · exact Option.isSome_iff_exists.mpr ⟨loaded, graph⟩

end Keeping

/-- The resident projects are named in ascending order, each once. -/
theorem pairwise_residentProjects (cache : Cache) : cache.residentProjects.Pairwise (· < ·) :=
  List.pairwise_map.mpr (Json.ascending_sortMembers _)

/-- Caches that find graphs for the same projects name the same projects. -/
theorem Keyed.residentProjects_congr {cache other : Cache} (keyed : cache.Keyed)
    (keyedOther : other.Keyed)
    (same : ∀ project, cache.resident? project = other.resident? project) :
    cache.residentProjects = other.residentProjects := by
  refine cache.pairwise_residentProjects.eq_of_mem_iff other.pairwise_residentProjects ?_
  intro project
  rw [keyed.mem_residentProjects, keyedOther.mem_residentProjects, same]

end Cache

end CallAtlas
