import CallAtlas.Proofs.Cache.Reachable

/-!
# Waiting calls

How a call in flight learns of the first load that ends after its arrival. As long as none has
ended, the call has noted all failures; once one has ended, the ledger holds its graph or its
failure, which stays the latest until the call has shared it, because nobody in front of the call
starts a load any more.
-/

namespace CallAtlas

theorem Failure.shared_shared (failure : Failure) : failure.shared.shared = failure.shared := by
  cases failure <;> rfl

namespace Cache

/-- A load that has ended, by the name of its call. -/
structure Attempt where
  id : CallId
  result : Except Failure Loaded

/-- What a call gets from an attempt: its own outcome, or the same graph or a copy of the
failure. -/
def Attempt.resultFor (attempt : Attempt) (id : CallId) : Except Failure Loaded :=
  if attempt.id = id then attempt.result else attempt.result.mapError Failure.shared

/-- The attempt that a poll of a call ended. -/
def Event.attempt? (event : Event) : Option Attempt :=
  event.progress.ended?.map (Attempt.mk event.id)

/-- Whether a step drops the call in flight of a name. -/
def Step.drops : Step → CallId → Bool
  | .call other _ _, id | .cancel other, id => other = id
  | .poll _, _ | .get _, _ => false

theorem Step.eq_poll_of_kept {step : Step} {id : CallId} (subject : step.subject? = some id)
    (kept : step.drops id = false) : step = .poll id := by
  cases step with
  | call other project load =>
    obtain rfl := Option.some.inj subject
    simp [drops] at kept
  | poll other =>
    obtain rfl := Option.some.inj subject
    rfl
  | cancel other =>
    obtain rfl := Option.some.inj subject
    simp [drops] at kept
  | get project => cases subject

/-- What the ledger of a project tells a call of the first attempt since its arrival. -/
def Tells (ledger : Ledger) (id : CallId) (failuresSeen : Nat) : Option Attempt → Prop
  | none => ledger.graph = none ∧ ledger.failures = failuresSeen
  | some ⟨other, .ok loaded⟩ => other ≠ id ∧ ledger.graph = some loaded
  | some ⟨other, .error failure⟩ =>
    other ≠ id ∧ ledger.graph = none ∧ ledger.failures = failuresSeen + 1 ∧
      ∃ failed, ledger.lastFailure = some failed ∧ failed.failure.shared = failure.shared

section Telling

variable {ledger : Ledger} {id other : CallId} {failuresSeen : Nat} {ended : Option Attempt}

/-- As long as a load can be started or run in front of a call, no attempt has ended. -/
theorem Tells.none_of_bare (tells : Tells ledger id failuresSeen ended)
    (bare : ledger.graph = none) (current : ledger.failures ≤ failuresSeen) : ended = none := by
  match ended, tells with
  | none, _ => rfl
  | some ⟨_, .ok loaded⟩, ⟨_, resident⟩ =>
    rw [bare] at resident
    cases resident
  | some ⟨_, .error failure⟩, ⟨_, _, missed, _⟩ => omega

/-- A call that takes the graph takes that of the first attempt. -/
theorem Tells.of_graph (tells : Tells ledger id failuresSeen ended) {loaded : Loaded}
    (resident : ledger.graph = some loaded) :
    ∃ attempt, ended = some attempt ∧ .ok loaded = attempt.resultFor id := by
  match ended, tells with
  | none, ⟨bare, _⟩ =>
    rw [resident] at bare
    cases bare
  | some ⟨other, .ok found⟩, ⟨different, there⟩ =>
    refine ⟨_, rfl, ?_⟩
    rw [Option.some.inj (resident.symm.trans there), Attempt.resultFor, if_neg different]
    rfl
  | some ⟨_, .error failure⟩, ⟨_, bare, _⟩ =>
    rw [resident] at bare
    cases bare

/-- A call that shares a failure shares that of the first attempt. -/
theorem Tells.of_failure (tells : Tells ledger id failuresSeen ended) {failed : FailedLoad}
    (bare : ledger.graph = none) (kept : ledger.lastFailure = some failed)
    (missed : ledger.failures = failuresSeen + 1) :
    ∃ attempt, ended = some attempt ∧
      .error failed.failure.shared = attempt.resultFor id := by
  match ended, tells with
  | none, ⟨_, current⟩ => omega
  | some ⟨_, .ok found⟩, ⟨_, resident⟩ =>
    rw [bare] at resident
    cases resident
  | some ⟨other, .error failure⟩, ⟨different, _, _, stored, latest, same⟩ =>
    refine ⟨_, rfl, ?_⟩
    rw [Option.some.inj (kept.symm.trans latest), same, Attempt.resultFor, if_neg different]
    rfl

/-- The end of a load tells those behind of it. -/
theorem Tells.settle (bare : ledger.graph = none) (current : ledger.failures = failuresSeen)
    (different : other ≠ id) (result : Except Failure Loaded) :
    Tells (ledger.settle result) id failuresSeen (some ⟨other, result⟩) := by
  cases result with
  | ok loaded => exact ⟨different, by simp [Ledger.settle, bare]⟩
  | error failure =>
    exact ⟨different, bare, congrArg (· + 1) current, _, rfl, failure.shared_shared⟩

end Telling

namespace Lane

/-- A call is in flight, noted so many failures, and can learn of the first attempt that ended. -/
structure Awaits (lane : Lane) (id : CallId) (failuresSeen : Nat) (ended : Option Attempt) :
    Prop where
  inFlight : ∃ inquiry ∈ lane.queue, inquiry.id = id ∧ inquiry.failuresSeen = failuresSeen
  tells : Tells lane.toLedger id failuresSeen ended

/-- A call goes on awaiting, or is done with the outcome of the first attempt that ended. -/
def Follows (lane : Lane) (id : CallId) (failuresSeen : Nat) (ended : Option Attempt) :
    Option (Except Failure Loaded) → Prop
  | none => lane.Awaits id failuresSeen ended
  | some result => ∃ attempt, ended = some attempt ∧ result = attempt.resultFor id

variable {retention : Retention} {lane : Lane} {ledger : Ledger} {first : Inquiry}
  {behind : List Inquiry} {id : CallId} {failuresSeen : Nat} {ended : Option Attempt}

theorem Awaits.serves (awaits : lane.Awaits id failuresSeen ended) : lane.serves id = true := by
  obtain ⟨inquiry, member, same, -⟩ := awaits.inFlight
  exact List.any_eq_true.mpr ⟨inquiry, member, by simpa using same⟩

/-- Every call in flight is where some first attempt, or none, has left it. -/
theorem Orderly.awaits (orderly : lane.Orderly) {inquiry : Inquiry}
    (member : inquiry ∈ lane.queue) :
    ∃ ended, lane.Awaits inquiry.id inquiry.failuresSeen ended := by
  -- The attempt is told under a name that is not the call's own.
  have longer : inquiry.id.push ' ' ≠ inquiry.id := by
    intro same
    have lengths := congrArg String.length same
    simp at lengths
  have inFlight : ∃ other ∈ lane.queue,
      other.id = inquiry.id ∧ other.failuresSeen = inquiry.failuresSeen :=
    ⟨inquiry, member, rfl, rfl⟩
  cases resident : lane.graph with
  | some loaded => exact ⟨some ⟨_, .ok loaded⟩, inFlight, longer, resident⟩
  | none =>
    have counted := orderly.counted resident
    have noted := orderly.noted inquiry member
    have due := orderly.due inquiry member
    by_cases current : lane.failures = inquiry.failuresSeen
    · exact ⟨none, inFlight, resident, current⟩
    · cases kept : lane.lastFailure with
      | none =>
        simp only [kept, Option.map_none, Option.getD_none] at counted
        omega
      | some failed =>
        exact ⟨some ⟨_, .error failed.failure⟩, inFlight, longer, resident, by omega, _, kept, rfl⟩

theorem depart_of_mem {inquiry : Inquiry} (member : inquiry ∈ lane.queue)
    (result : Except Failure Loaded) : lane.depart retention result = lane := by
  cases result with
  | ok loaded => rfl
  | error failure =>
    have occupied : ¬ (retention = .dropIdle ∧ lane.graph.isNone ∧ lane.queue = []) := by
      rintro ⟨-, -, empty⟩
      rw [empty] at member
      cases member
    exact if_neg occupied

/-- A call behind the one that is polled awaits on: if a load ends, it is the first. -/
theorem Awaits.polled_other (orderly : (Lane.mk ledger (first :: behind)).Orderly)
    (awaits : (Lane.mk ledger (first :: behind)).Awaits id failuresSeen ended)
    (different : first.id ≠ id) {polled : Lane × Progress}
    (can : Polled retention ledger first behind polled) :
    polled.1.Awaits id failuresSeen
      (ended.or (polled.2.ended?.map (Attempt.mk first.id))) := by
  obtain ⟨⟨inquiry, present, rfl, rfl⟩, tells⟩ := awaits
  have member : inquiry ∈ behind := by
    rcases List.mem_cons.mp present with rfl | member
    · exact absurd rfl different
    · exact member
  have seen := (List.pairwise_cons.mp orderly.sorted).1 inquiry member
  cases can with
  | takes loaded resident =>
    exact ⟨⟨inquiry, member, rfl, rfl⟩, by simpa [Progress.ended?] using tells⟩
  | shares failed bare kept missed =>
    rw [depart_of_mem member]
    exact ⟨⟨inquiry, member, rfl, rfl⟩, by simpa [Progress.ended?] using tells⟩
  | suspends left further use used bare current =>
    exact ⟨⟨inquiry, List.mem_cons_of_mem _ member, rfl, rfl⟩,
      by simpa [Progress.ended?, Progress.result?] using tells⟩
  | ends use used bare current =>
    -- The first call loads, so it has seen every failure, and so has whoever arrived behind it.
    obtain rfl := tells.none_of_bare bare (current ▸ seen)
    rw [depart_of_mem member]
    refine ⟨⟨inquiry, member, rfl, rfl⟩, ?_⟩
    simp only [Progress.ended?, if_neg used, Progress.result?, Option.map_some, Option.none_or]
    exact .settle bare tells.2 different first.outcome

/-- A call that is polled gets the outcome of the first attempt, which may be its own. -/
theorem Awaits.polled_own
    (awaits : (Lane.mk ledger (first :: behind)).Awaits first.id first.failuresSeen ended)
    {polled : Lane × Progress} (can : Polled retention ledger first behind polled) :
    polled.1.Follows first.id first.failuresSeen
      (ended.or (polled.2.ended?.map (Attempt.mk first.id))) polled.2.result? := by
  have tells := awaits.tells
  cases can with
  | takes loaded resident =>
    simpa [Progress.ended?, Progress.result?, Follows] using tells.of_graph resident
  | shares failed bare kept missed =>
    simpa [Progress.ended?, Progress.result?, Follows] using tells.of_failure bare kept missed
  | suspends left further use used bare current =>
    refine ⟨⟨_, List.mem_cons_self, rfl, rfl⟩, ?_⟩
    simpa [Progress.ended?, Progress.result?] using tells
  | ends use used bare current =>
    obtain rfl := tells.none_of_bare bare (Nat.le_of_eq current.symm)
    refine ⟨⟨first.id, first.outcome⟩, ?_, (if_pos rfl).symm⟩
    simp [Progress.ended?, Progress.result?, used]

/-- A call does not use its loader once an attempt has ended. -/
theorem Awaits.unused
    (awaits : (Lane.mk ledger (first :: behind)).Awaits first.id first.failuresSeen ended)
    (past : ended.isSome) {polled : Lane × Progress}
    (can : Polled retention ledger first behind polled) : polled.2.loader = .unused := by
  have idle (bare : ledger.graph = none) (current : first.failuresSeen = ledger.failures) :
      False := by
    obtain rfl := awaits.tells.none_of_bare bare (Nat.le_of_eq current.symm)
    cases past
  cases can with
  | takes loaded resident => rfl
  | shares failed bare kept missed => rfl
  | suspends left further use used bare current => exact (idle bare current).elim
  | ends use used bare current => exact (idle bare current).elim

/-! ## Steps of a lane -/

theorem Awaits.leave (awaits : lane.Awaits id failuresSeen ended) {other : CallId}
    (different : other ≠ id) : (lane.leave other).Awaits id failuresSeen ended := by
  obtain ⟨⟨inquiry, member, rfl, seen⟩, tells⟩ := awaits
  refine ⟨⟨inquiry, List.mem_filter.mpr ⟨member, ?_⟩, rfl, seen⟩, tells⟩
  simpa using different.symm

theorem Awaits.enqueue (awaits : lane.Awaits id failuresSeen ended) (other : CallId)
    (load : Load) : (lane.enqueue other load).Awaits id failuresSeen ended := by
  obtain ⟨⟨inquiry, member, same, seen⟩, tells⟩ := awaits
  exact ⟨⟨inquiry, List.mem_append_left _ member, same, seen⟩, tells⟩

theorem Awaits.poll_other (awaits : lane.Awaits id failuresSeen ended) (orderly : lane.Orderly)
    {other : CallId} (different : other ≠ id) :
    (lane.poll retention other).1.Awaits id failuresSeen
      (ended.or ((lane.poll retention other).2.ended?.map (Attempt.mk other))) := by
  rcases orderly.poll_cases retention other with waits | ⟨first, behind, line, rfl, can⟩
  · rw [waits]
    simpa [Progress.ended?] using awaits
  · exact (line ▸ awaits).polled_other (line ▸ orderly) different can

/-- A call that is polled waits on or is the first. -/
theorem Awaits.poll_own (awaits : lane.Awaits id failuresSeen ended) (retention : Retention)
    (orderly : lane.Orderly) (distinct : (lane.queue.map Inquiry.id).Nodup) :
    (lane.poll retention id).1.Follows id failuresSeen
        (ended.or ((lane.poll retention id).2.ended?.map (Attempt.mk id)))
        (lane.poll retention id).2.result? ∧
      (ended.isSome → (lane.poll retention id).2.loader = .unused) := by
  rcases orderly.poll_cases retention id with waits | ⟨first, behind, line, rfl, can⟩
  · rw [waits]
    refine ⟨?_, fun _ => rfl⟩
    simpa [Progress.ended?, Progress.result?, Follows] using awaits
  · obtain ⟨inquiry, member, same, rfl⟩ := awaits.inFlight
    have front : first ∈ lane.queue := by
      rw [line]
      exact List.mem_cons_self
    obtain rfl := List.inj_on_of_nodup_map distinct member front same
    rw [line] at awaits
    exact ⟨awaits.polled_own can, fun past => awaits.unused past can⟩

theorem Awaits.arrive_other (awaits : lane.Awaits id failuresSeen ended) (orderly : lane.Orderly)
    {other : CallId} (different : other ≠ id) (load : Load) :
    (lane.arrive retention other load).1.Awaits id failuresSeen
      (ended.or ((lane.arrive retention other load).2.ended?.map (Attempt.mk other))) := by
  unfold Lane.arrive
  split
  · simpa [Progress.ended?] using awaits
  · exact (awaits.enqueue other load).poll_other (orderly.enqueue other load) different

/-- A step that polls no call of the lane, and does not drop the call, changes nothing for it. -/
theorem Awaits.act_silent (awaits : lane.Awaits id failuresSeen ended) {project : String}
    {step : Step} (kept : step.drops id = false)
    (silent : (lane.act retention project step).2 = none) :
    (lane.act retention project step).1.Awaits id failuresSeen ended := by
  have can := acted retention lane project step
  generalize lane.act retention project step = after at can silent ⊢
  cases can with
  | arrives | polls => cases silent
  | passes other aim load elsewhere => exact awaits.leave (by simpa [Step.drops] using kept)
  | misses other elsewhere => exact awaits
  | cancels other => exact awaits.leave (by simpa [Step.drops] using kept)
  | asks other => exact awaits

/-- A call awaits on when another call of its lane is polled. -/
theorem Awaits.act_other (awaits : lane.Awaits id failuresSeen ended) (orderly : lane.Orderly)
    {project : String} {step : Step} {other : CallId} (subject : step.subject? = some other)
    (different : other ≠ id) {progress : Progress}
    (happens : (lane.act retention project step).2 = some progress) :
    (lane.act retention project step).1.Awaits id failuresSeen
      (ended.or (progress.ended?.map (Attempt.mk other))) := by
  have can := acted retention lane project step
  generalize lane.act retention project step = after at can happens ⊢
  cases can with
  | arrives name load =>
    obtain rfl := Option.some.inj subject
    obtain rfl := Option.some.inj happens
    exact (awaits.leave different).arrive_other (orderly.leave name) different load
  | polls name served =>
    obtain rfl := Option.some.inj subject
    obtain rfl := Option.some.inj happens
    exact awaits.poll_other orderly different
  | passes | misses | cancels | asks => cases happens

theorem nodup_leave (distinct : (lane.queue.map Inquiry.id).Nodup) (id : CallId) :
    ((lane.leave id).queue.map Inquiry.id).Nodup :=
  distinct.sublist (List.filter_sublist.map _)

theorem ne_of_mem_leave {inquiry : Inquiry} (member : inquiry ∈ (lane.leave id).queue) :
    inquiry.id ≠ id := by
  simpa using (List.mem_filter.mp member).2

/-- A call of a new name leaves the names in flight distinct. -/
theorem nodup_enqueue (distinct : (lane.queue.map Inquiry.id).Nodup)
    (fresh : ∀ inquiry ∈ lane.queue, inquiry.id ≠ id) (load : Load) :
    ((lane.enqueue id load).queue.map Inquiry.id).Nodup := by
  show ((lane.queue ++ [_]).map Inquiry.id).Nodup
  rw [List.map_append]
  refine List.nodup_append.mpr ⟨distinct, List.nodup_singleton id, ?_⟩
  rintro _ present _ last rfl
  obtain ⟨inquiry, member, same⟩ := List.mem_map.mp present
  exact fresh inquiry member (same.trans (List.mem_singleton.mp last))

/-- A call that arrives where there is no graph has noted all failures, and its first poll may
end its load at once. -/
theorem Orderly.arrive_own (orderly : lane.Orderly) (bare : lane.graph = none)
    (distinct : (lane.queue.map Inquiry.id).Nodup)
    (fresh : ∀ inquiry ∈ lane.queue, inquiry.id ≠ id) (load : Load) :
    (lane.arrive retention id load).1.Follows id lane.failures
      ((lane.arrive retention id load).2.ended?.map (Attempt.mk id))
      (lane.arrive retention id load).2.result? := by
  have enqueued := nodup_enqueue distinct fresh load
  have awaits : (lane.enqueue id load).Awaits id lane.failures none :=
    ⟨⟨_, List.mem_append_right _ (List.mem_singleton_self _), rfl, rfl⟩, bare, rfl⟩
  unfold Lane.arrive
  rw [bare]
  simpa using (awaits.poll_own retention (orderly.enqueue id load) enqueued).1

end Lane

end Cache

end CallAtlas
