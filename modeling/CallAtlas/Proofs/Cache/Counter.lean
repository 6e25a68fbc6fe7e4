import CallAtlas.Proofs.Cache.Reachable

/-!
# How far failures are counted

A step lets at most one load of a project fail, so a run counts no further than it has steps. A
counter of 64 bits holds every number that comes up in a run of fewer than 2^64 steps.
-/

namespace CallAtlas.Cache

theorem failures_settle_le (ledger : Ledger) (result : Except Failure Loaded) :
    (ledger.settle result).failures ≤ ledger.failures + 1 := by
  cases result with
  | ok loaded => exact Nat.le_succ ledger.failures
  | error failure => exact Nat.le_refl _

namespace Lane

variable {retention : Retention} {lane : Lane}

theorem failures_depart_le (lane : Lane) (result : Except Failure Loaded) :
    (lane.depart retention result).failures ≤ lane.failures := by
  cases result with
  | ok loaded => exact Nat.le_refl _
  | error failure =>
    show (if _ then ({} : Lane) else lane).failures ≤ lane.failures
    split
    · exact Nat.zero_le _
    · exact Nat.le_refl _

/-- Only the end of a loader is counted. -/
theorem Polled.failures_le {ledger : Ledger} {first : Inquiry} {behind : List Inquiry}
    {after : Lane × Progress} (polled : Polled retention ledger first behind after) :
    after.1.failures ≤ ledger.failures + 1 := by
  cases polled with
  | takes loaded resident => exact Nat.le_succ _
  | shares failed bare kept missed => exact Nat.le_trans (failures_depart_le _ _) (Nat.le_succ _)
  | suspends left further use used bare current => exact Nat.le_succ _
  | ends use used bare current =>
    exact Nat.le_trans (failures_depart_le _ _) (failures_settle_le ledger first.outcome)

theorem Orderly.failures_poll_le (orderly : lane.Orderly) (id : CallId) :
    (lane.poll retention id).1.failures ≤ lane.failures + 1 := by
  rcases orderly.poll_cases retention id with waits | ⟨first, behind, -, -, can⟩
  · rw [waits]
    exact Nat.le_succ _
  · exact can.failures_le

theorem Orderly.failures_arrive_le (orderly : lane.Orderly) (id : CallId) (load : Load) :
    (lane.arrive retention id load).1.failures ≤ lane.failures + 1 := by
  unfold Lane.arrive
  split
  · exact Nat.le_succ _
  · exact (orderly.enqueue id load).failures_poll_le id

/-- A step counts at most one failure more. -/
theorem Orderly.failures_act_le (orderly : lane.Orderly) (retention : Retention)
    (project : String) (step : Step) :
    (lane.act retention project step).1.failures ≤ lane.failures + 1 := by
  have can := acted retention lane project step
  generalize lane.act retention project step = after at can ⊢
  cases can with
  | arrives id load => exact (orderly.leave id).failures_arrive_le id load
  | polls id served => exact orderly.failures_poll_le id
  | passes | misses | cancels | asks => exact Nat.le_succ _

theorem Orderly.failures_acts_le (orderly : lane.Orderly) (retention : Retention)
    (project : String) (steps : List Step) :
    (lane.acts retention project steps).failures ≤ lane.failures + steps.length := by
  induction steps generalizing lane with
  | nil => exact Nat.le_refl _
  | cons step later ih =>
    have first := orderly.failures_act_le retention project step
    have others : (((lane.act retention project step).1).acts retention project later).failures ≤
        (lane.act retention project step).1.failures + later.length :=
      ih (orderly.act project step)
    show (((lane.act retention project step).1).acts retention project later).failures ≤ _
    rw [List.length_cons]
    omega

end Lane

namespace Run

variable (retention : Retention) (steps : List Step)

/-- A run counts no further than it has steps. -/
theorem failures_le_length (project : String) :
    ((start.steps retention steps).cache.lane project).failures ≤ steps.length := by
  rw [lane_steps reachable_start]
  exact Nat.le_trans (Lane.orderly_start.failures_acts_le retention project steps)
    (Nat.le_of_eq (Nat.zero_add _))

/-- What is counted for a call in flight, and what the call noted, is held by a counter of 64 bits,
as long as a run is not as long as such a counter counts. -/
theorem toNat_failures_of_call (short : steps.length < UInt64.size) {call : Call}
    (inFlight : call ∈ (start.steps retention steps).cache.calls) :
    let failures := ((start.steps retention steps).cache.store call.slot).failures
    (UInt64.ofNat failures).toNat = failures ∧
      (UInt64.ofNat call.failuresSeen).toNat = call.failuresSeen := by
  have reachable := reachable_of_start retention steps
  have bound := failures_le_length retention steps call.project
  have noted := (reachable.orderly call.project).noted _ (mem_lane inFlight)
  rw [reachable.failures_eq inFlight]
  exact ⟨UInt64.toNat_ofNat_of_lt' (Nat.lt_of_le_of_lt bound short),
    UInt64.toNat_ofNat_of_lt' (Nat.lt_of_le_of_lt (Nat.le_trans noted bound) short)⟩

end Run

end CallAtlas.Cache
