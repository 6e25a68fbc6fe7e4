import CallAtlas.Proofs.Cache.Lane

/-!
# Orderly lanes

What a poll of the first call of a lane can come to, and the invariant of a lane in use: only the
first call can have its loader running, and the failures that the calls noted at their arrival
ascend along the line and are at most one behind the count.
-/

namespace CallAtlas.Cache

/-- How often the loader of a call will still be polled in vain. -/
def pendingPolls (inquiry : Inquiry) : Nat :=
  match inquiry.stage with
  | .waiting => inquiry.load.suspensions
  | .loading suspensions => suspensions

namespace Lane

/-- The invariant of a lane in use. -/
structure Orderly (lane : Lane) : Prop where
  /-- Only the first call can have its loader running. -/
  ahead : ∀ inquiry ∈ lane.queue.tail, inquiry.stage = .waiting
  /-- A loader runs only without a graph, and no load failed since the call arrived. -/
  running : ∀ inquiry ∈ lane.queue, inquiry.stage ≠ .waiting →
    lane.graph = none ∧ inquiry.failuresSeen = lane.failures
  /-- As long as there is no graph, the latest failure is kept with its number. -/
  counted : lane.graph = none → lane.failures = (lane.lastFailure.map FailedLoad.attempt).getD 0
  /-- Who arrived later has seen no fewer failures. -/
  sorted : lane.queue.Pairwise fun earlier later => earlier.failuresSeen ≤ later.failuresSeen
  noted : ∀ inquiry ∈ lane.queue, inquiry.failuresSeen ≤ lane.failures
  /-- A call misses one failure at most. -/
  due : ∀ inquiry ∈ lane.queue, lane.failures ≤ inquiry.failuresSeen + 1

theorem orderly_start : ({} : Lane).Orderly where
  ahead := by simp
  running := by simp
  counted := fun _ => rfl
  sorted := .nil
  noted := by simp
  due := by simp

/-- What a poll of the first call of an orderly lane comes to: the lane behind it, and what the poll
does. -/
inductive Polled (retention : Retention) (ledger : Ledger) (first : Inquiry)
    (behind : List Inquiry) : Lane × Progress → Prop where
  /-- The call takes the graph that is there. -/
  | takes (loaded : Loaded) (resident : ledger.graph = some loaded) :
    Polled retention ledger first behind (⟨ledger, behind⟩, ⟨.done (.ok loaded), .unused⟩)
  /-- The call shares the failure that it missed. -/
  | shares (failed : FailedLoad) (bare : ledger.graph = none)
      (kept : ledger.lastFailure = some failed)
      (missed : ledger.failures = first.failuresSeen + 1) :
    Polled retention ledger first behind
      (Lane.depart retention ⟨ledger, behind⟩ (.error failed.failure.shared),
        ⟨.done (.error failed.failure.shared), .unused⟩)
  /-- The loader of the call is pending. -/
  | suspends (left : Nat) (further : pendingPolls first = left + 1) (use : LoaderUse)
      (used : use ≠ .unused) (bare : ledger.graph = none)
      (current : first.failuresSeen = ledger.failures) :
    Polled retention ledger first behind
      (⟨ledger, { first with stage := .loading left } :: behind⟩, ⟨.pending, use⟩)
  /-- The loader of the call ends. -/
  | ends (use : LoaderUse) (used : use ≠ .unused) (bare : ledger.graph = none)
      (current : first.failuresSeen = ledger.failures) :
    Polled retention ledger first behind
      (Lane.depart retention ⟨ledger.settle first.outcome, behind⟩ first.outcome,
        ⟨.done first.outcome, use⟩)

section Polling

variable (retention : Retention) {ledger : Ledger} {first : Inquiry} {behind : List Inquiry}

theorem polled_loader (use : LoaderUse) (used : use ≠ .unused) (bare : ledger.graph = none)
    (current : first.failuresSeen = ledger.failures) :
    Polled retention ledger first behind
      ((pollLoader retention ledger first behind (pendingPolls first)).1,
        ⟨(pollLoader retention ledger first behind (pendingPolls first)).2, use⟩) := by
  cases further : pendingPolls first with
  | zero => exact .ends use used bare current
  | succ left => exact .suspends left further use used bare current

/-- A failure that a call shares is the one that it missed; a call that has missed none loads. -/
theorem Orderly.polled_bare (orderly : (Lane.mk ledger (first :: behind)).Orderly)
    (bare : ledger.graph = none) (waits : first.stage = .waiting) :
    Polled retention ledger first behind
      (takeTurn retention ledger first behind (ledger.turn first.failuresSeen)) := by
  have counted := orderly.counted bare
  have noted := orderly.noted first List.mem_cons_self
  have due := orderly.due first List.mem_cons_self
  have loads (current : first.failuresSeen = ledger.failures) :
      Polled retention ledger first behind (takeTurn retention ledger first behind .loads) := by
    have polled : Polled retention ledger first behind _ :=
      polled_loader retention .started nofun bare current
    rw [pendingPolls, waits] at polled
    exact polled
  unfold Ledger.turn Ledger.sharedFailure?
  cases kept : ledger.lastFailure with
  | none =>
    simp only [kept, Option.map_none, Option.getD_none] at counted
    simp only [bare]
    exact loads (by simp only at noted; omega)
  | some failed =>
    simp only [kept, Option.map_some, Option.getD_some] at counted
    simp only [bare]
    by_cases missed : first.failuresSeen < failed.attempt
    · rw [if_pos missed]
      exact .shares failed bare kept (by simp only at due; omega)
    · rw [if_neg missed]
      exact loads (by simp only at noted; omega)

/-- A poll of the first call of an orderly lane takes the graph, shares the failure that the call
missed, or gets its loader on. -/
theorem Orderly.polled (orderly : (Lane.mk ledger (first :: behind)).Orderly) :
    Polled retention ledger first behind (pollFirst retention ledger first behind) := by
  unfold pollFirst
  cases stage : first.stage with
  | loading suspensions =>
    have started : first.stage ≠ .waiting := by simp [stage]
    obtain ⟨bare, current⟩ := orderly.running first List.mem_cons_self started
    have polled : Polled retention ledger first behind _ :=
      polled_loader retention .resumed nofun bare current
    rw [pendingPolls, stage] at polled
    exact polled
  | waiting =>
    cases resident : ledger.graph with
    | some loaded =>
      have takes : ledger.turn first.failuresSeen = .takes loaded := by
        rw [Ledger.turn, resident]
      rw [takes]
      exact .takes loaded resident
    | none => exact orderly.polled_bare retention resident stage

end Polling

/-! ## The invariant is kept -/

variable {retention : Retention} {lane : Lane} {ledger : Ledger} {first : Inquiry}
  {behind : List Inquiry}

theorem Orderly.sublist (orderly : lane.Orderly) {queue : List Inquiry}
    (fewer : queue.Sublist lane.queue) : (Lane.mk lane.toLedger queue).Orderly where
  ahead := fun inquiry member => orderly.ahead inquiry (fewer.tail.subset member)
  running := fun inquiry member => orderly.running inquiry (fewer.subset member)
  counted := orderly.counted
  sorted := orderly.sorted.sublist fewer
  noted := fun inquiry member => orderly.noted inquiry (fewer.subset member)
  due := fun inquiry member => orderly.due inquiry (fewer.subset member)

theorem Orderly.leave (orderly : lane.Orderly) (id : CallId) : (lane.leave id).Orderly :=
  orderly.sublist List.filter_sublist

theorem Orderly.depart (orderly : lane.Orderly) (result : Except Failure Loaded) :
    (Lane.depart retention lane result).Orderly := by
  cases result with
  | ok loaded => exact orderly
  | error failure =>
    unfold Lane.depart
    dsimp only
    split
    · exact orderly_start
    · exact orderly

theorem Orderly.enqueue (orderly : lane.Orderly) (id : CallId) (load : Load) :
    (lane.enqueue id load).Orderly where
  ahead := by
    intro inquiry member
    cases line : lane.queue with
    | nil => simp [Lane.enqueue, line] at member
    | cons first behind =>
      simp only [Lane.enqueue, line, List.cons_append, List.tail_cons, List.mem_append,
        List.mem_singleton] at member
      rcases member with member | rfl
      · exact orderly.ahead inquiry (by rw [line]; exact member)
      · rfl
  running := by
    intro inquiry member started
    rcases List.mem_append.mp member with member | member
    · exact orderly.running inquiry member started
    · obtain rfl := List.mem_singleton.mp member
      exact absurd rfl started
  counted := orderly.counted
  sorted := by
    refine List.pairwise_append.mpr ⟨orderly.sorted, List.pairwise_singleton _ _, ?_⟩
    intro earlier member later same
    obtain rfl := List.mem_singleton.mp same
    exact orderly.noted earlier member
  noted := by
    intro inquiry member
    rcases List.mem_append.mp member with member | member
    · exact orderly.noted inquiry member
    · obtain rfl := List.mem_singleton.mp member
      exact Nat.le_refl _
  due := by
    intro inquiry member
    rcases List.mem_append.mp member with member | member
    · exact orderly.due inquiry member
    · obtain rfl := List.mem_singleton.mp member
      exact Nat.le_succ _

theorem Orderly.suspend (orderly : (Lane.mk ledger (first :: behind)).Orderly)
    (bare : ledger.graph = none) (current : first.failuresSeen = ledger.failures) (left : Nat) :
    (Lane.mk ledger ({ first with stage := .loading left } :: behind)).Orderly where
  ahead := orderly.ahead
  running := by
    intro inquiry member started
    rcases List.mem_cons.mp member with rfl | member
    · exact ⟨bare, current⟩
    · exact orderly.running inquiry (List.mem_cons_of_mem _ member) started
  counted := orderly.counted
  sorted := List.pairwise_cons.mpr (List.pairwise_cons.mp orderly.sorted)
  noted := by
    have noted := orderly.noted
    simpa using noted
  due := by
    have due := orderly.due
    simpa using due

/-- The end of a load: who waits behind the call has seen what the call has seen, or more. -/
theorem Orderly.settle (orderly : (Lane.mk ledger (first :: behind)).Orderly)
    (current : first.failuresSeen = ledger.failures) (result : Except Failure Loaded) :
    (Lane.mk (ledger.settle result) behind).Orderly := by
  have waits : ∀ inquiry ∈ behind, inquiry.stage = .waiting := orderly.ahead
  have fewer := orderly.sublist (List.sublist_cons_self first behind)
  cases result with
  | ok loaded =>
    refine ⟨fewer.ahead, ?_, ?_, fewer.sorted, fewer.noted, fewer.due⟩
    · intro inquiry member started
      exact absurd (waits inquiry member) started
    · intro bare
      simp [Ledger.settle] at bare
  | error failure =>
    refine ⟨fewer.ahead, ?_, fun _ => rfl, fewer.sorted, ?_, ?_⟩
    · intro inquiry member started
      exact absurd (waits inquiry member) started
    · intro inquiry member
      exact Nat.le_succ_of_le (fewer.noted inquiry member)
    · intro inquiry member
      have seen := (List.pairwise_cons.mp orderly.sorted).1 inquiry member
      rw [current] at seen
      exact Nat.succ_le_succ seen

theorem Orderly.of_polled (orderly : (Lane.mk ledger (first :: behind)).Orderly)
    {polled : Lane × Progress} (can : Polled retention ledger first behind polled) :
    polled.1.Orderly := by
  have fewer : (Lane.mk ledger behind).Orderly :=
    orderly.sublist (List.sublist_cons_self first behind)
  cases can with
  | takes loaded resident => exact fewer
  | shares failed bare kept missed => exact fewer.depart (.error failed.failure.shared)
  | suspends left further use used bare current => exact orderly.suspend bare current left
  | ends use used bare current => exact (orderly.settle current first.outcome).depart first.outcome

/-- A call that is not the first waits on; the first is polled. -/
theorem Orderly.poll_cases (orderly : lane.Orderly) (retention : Retention) (id : CallId) :
    lane.poll retention id = (lane, ⟨.pending, .unused⟩) ∨
      ∃ first behind, lane = ⟨lane.toLedger, first :: behind⟩ ∧ first.id = id ∧
        Polled retention lane.toLedger first behind (lane.poll retention id) := by
  obtain ⟨ledger, queue⟩ := lane
  cases queue with
  | nil => exact .inl rfl
  | cons first behind =>
    by_cases same : first.id = id
    · subst same
      refine .inr ⟨first, behind, rfl, rfl, ?_⟩
      rw [poll_first]
      exact orderly.polled retention
    · exact .inl (poll_other rfl same)

theorem Orderly.poll (orderly : lane.Orderly) (id : CallId) :
    (lane.poll retention id).1.Orderly := by
  rcases orderly.poll_cases retention id with waits | ⟨first, behind, line, -, can⟩
  · rw [waits]
    exact orderly
  · exact (line ▸ orderly).of_polled can

theorem Orderly.arrive (orderly : lane.Orderly) (id : CallId) (load : Load) :
    (lane.arrive retention id load).1.Orderly := by
  unfold Lane.arrive
  split
  · exact orderly
  · exact (orderly.enqueue id load).poll id

/-- A step leaves an orderly lane. -/
theorem Orderly.act (orderly : lane.Orderly) (project : String) (step : Step) :
    (lane.act retention project step).1.Orderly := by
  have can := acted retention lane project step
  generalize lane.act retention project step = after at can ⊢
  cases can with
  | arrives id load => exact (orderly.leave id).arrive id load
  | passes id other load elsewhere => exact orderly.leave id
  | polls id served => exact orderly.poll id
  | misses id elsewhere => exact orderly
  | cancels id => exact orderly.leave id
  | asks other => exact orderly

end Lane

end CallAtlas.Cache
