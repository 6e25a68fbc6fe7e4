import CallAtlas.Proofs.Basic
import CallAtlas.Proofs.Cache.Handover

/-!
# Shared failures

A load that fails gives its failure to the call that ran it, and one and the same copy of it to all
calls that are in flight for the project when it ends. The copy may be retried exactly if the
failure may, and is the failure itself unless that is a text that is no JSON. Nobody else is given a
failure, except by its own load.
-/

namespace CallAtlas

/-- What a copy of a failure keeps of it. -/
structure Failure.IsCopyOf (copy original : Failure) : Prop where
  retryable : copy.isRetryable = original.isRetryable
  /-- A copy of the copy is no other. -/
  settled : copy.shared = copy
  /-- What is wrong, where, and how it is told. -/
  same : (∀ message, original ≠ .json message) → copy = original
  /-- A text that is no JSON is a malformed artifact with the same message. -/
  json : ∀ message, original = .json message → copy = .malformed "artifact" message

theorem Failure.isCopyOf_shared (failure : Failure) : failure.shared.IsCopyOf failure where
  retryable := by cases failure <;> rfl
  settled := failure.shared_shared
  same := by
    intro known
    cases failure with
    | json message => exact absurd rfl (known message)
    | input | malformed | unavailable | outsideSources | unknownProject | refused | poisoned => rfl
  json := by
    rintro message rfl
    rfl

/-- What a load comes to, whoever runs it. -/
def Load.result (load : Load) : Except Failure CallGraph :=
  load.outcome.bind CallGraph.ofArtifact

namespace Cache

/-- A call for a project is in flight. -/
def InFlight (cache : Cache) (project : String) (id : CallId) : Prop :=
  ∃ call ∈ cache.calls, call.project = project ∧ call.id = id

/-- A step polls a call that brought a load. -/
def Brings (cache : Cache) (load : Load) : Step → Prop
  | .call _ _ own => own = load
  | .poll id => ∃ call ∈ cache.calls, call.id = id ∧ call.load = load
  | .cancel _ | .get _ => False

theorem Sound.brings_unique {cache : Cache} (sound : cache.Sound) {step : Step} {a b : Load}
    (bringsA : cache.Brings a step) (bringsB : cache.Brings b step) : a = b := by
  cases step with
  | call id project load => exact bringsA.symm.trans bringsB
  | poll id =>
    obtain ⟨call, member, rfl, rfl⟩ := bringsA
    obtain ⟨other, memberOther, same, rfl⟩ := bringsB
    rw [sound.call_unique member memberOther same.symm]
  | cancel id | get project => exact bringsA.elim

theorem inFlight_of_awaits {cache : Cache} {project : String} {id : CallId} {failuresSeen : Nat}
    {ended : Option Attempt} (awaits : (cache.lane project).Awaits id failuresSeen ended) :
    cache.InFlight project id :=
  serves_lane_iff.mp awaits.serves

/-! ## The end of a load -/

namespace Lane

variable {retention : Retention} {lane : Lane} {ledger : Ledger} {first : Inquiry}
  {behind : List Inquiry} {id : CallId} {result : Except Failure Loaded}

/-- What a lane is left with when a load ends: all in flight can learn of it. -/
def TellsAll (lane : Lane) (attempt : Attempt) : Prop :=
  ∀ inquiry ∈ lane.queue, lane.Awaits inquiry.id inquiry.failuresSeen (some attempt)

/-- Only the first call ends its load, and those behind it have seen what it has seen. -/
theorem Polled.of_ended (orderly : (Lane.mk ledger (first :: behind)).Orderly)
    (distinct : ((first :: behind).map Inquiry.id).Nodup) {polled : Lane × Progress}
    (can : Polled retention ledger first behind polled) (ended : polled.2.ended? = some result) :
    result = first.outcome ∧ polled.1.TellsAll ⟨first.id, result⟩ := by
  cases can with
  | takes | shares | suspends => simp [Progress.ended?, Progress.result?] at ended
  | ends use used bare current =>
    obtain rfl : first.outcome = result := by
      simpa [Progress.ended?, Progress.result?, used] using ended
    refine ⟨rfl, ?_⟩
    intro inquiry member
    rw [queue_depart] at member
    -- The call loads, so it has noted every failure, and whoever stands behind it no fewer.
    have seen := (List.pairwise_cons.mp orderly.sorted).1 inquiry member
    have noted := orderly.noted inquiry (List.mem_cons_of_mem _ member)
    have different : first.id ≠ inquiry.id := by
      intro same
      exact (List.nodup_cons.mp distinct).1 (same ▸ List.mem_map_of_mem member)
    rw [depart_of_mem member]
    exact ⟨⟨inquiry, member, rfl, rfl⟩,
      .settle bare (Nat.le_antisymm (current ▸ seen) noted) different first.outcome⟩

theorem Orderly.poll_ended (orderly : lane.Orderly)
    (distinct : (lane.queue.map Inquiry.id).Nodup)
    (ended : (lane.poll retention id).2.ended? = some result) :
    (∃ inquiry ∈ lane.queue, inquiry.id = id ∧ result = inquiry.outcome) ∧
      (lane.poll retention id).1.TellsAll ⟨id, result⟩ := by
  rcases orderly.poll_cases retention id with waits | ⟨first, behind, line, rfl, can⟩
  · rw [waits] at ended
    cases ended
  · have front : first ∈ lane.queue := by
      rw [line]
      exact List.mem_cons_self
    have distinct : ((first :: behind).map Inquiry.id).Nodup := by
      rwa [line] at distinct
    obtain ⟨own, tells⟩ := can.of_ended (line ▸ orderly) distinct ended
    exact ⟨⟨first, front, rfl, own⟩, tells⟩

theorem Orderly.arrive_ended (orderly : lane.Orderly) (load : Load)
    (distinct : (lane.queue.map Inquiry.id).Nodup)
    (fresh : ∀ inquiry ∈ lane.queue, inquiry.id ≠ id)
    (ended : (lane.arrive retention id load).2.ended? = some result) :
    result = load.result.map (Loaded.mk id) ∧
      (lane.arrive retention id load).1.TellsAll ⟨id, result⟩ := by
  unfold Lane.arrive at ended ⊢
  split at ended
  · cases ended
  · rename_i bare
    have enqueued := nodup_enqueue distinct fresh load
    obtain ⟨⟨inquiry, member, same, rfl⟩, tells⟩ :=
      (orderly.enqueue id load).poll_ended enqueued ended
    rcases List.mem_append.mp member with old | new
    · exact absurd same (fresh inquiry old)
    · obtain rfl := List.mem_singleton.mp new
      exact ⟨rfl, tells⟩

/-- A call that can learn of a failure, and gets the lock, is done with a copy of it. -/
theorem Awaits.polled_failure {other : CallId} {failure : Failure}
    (awaits : (Lane.mk ledger (first :: behind)).Awaits first.id first.failuresSeen
      (some ⟨other, .error failure⟩))
    {polled : Lane × Progress} (can : Polled retention ledger first behind polled) :
    polled.2 = ⟨.done (.error failure.shared), .unused⟩ := by
  obtain ⟨different, bare, missed, failed, latest, same⟩ := awaits.tells
  cases can with
  | takes loaded resident =>
    rw [show ledger.graph = none from bare] at resident
    cases resident
  | shares own _ kept _ =>
    obtain rfl := Option.some.inj (kept.symm.trans latest)
    rw [same]
  | suspends left further use used _ current | ends use used _ current =>
    -- A call that loads has missed no failure.
    have missed : ledger.failures = first.failuresSeen + 1 := missed
    omega

theorem Awaits.poll_failure {other : CallId} {failure : Failure} {failuresSeen : Nat}
    (awaits : lane.Awaits first.id failuresSeen (some ⟨other, .error failure⟩))
    (orderly : lane.Orderly) (distinct : (lane.queue.map Inquiry.id).Nodup)
    (line : lane.queue = first :: behind) :
    (lane.poll retention first.id).2 = ⟨.done (.error failure.shared), .unused⟩ := by
  obtain ⟨ledger, queue⟩ := lane
  obtain rfl : queue = first :: behind := line
  obtain ⟨inquiry, member, same, rfl⟩ := awaits.inFlight
  obtain rfl := List.inj_on_of_nodup_map distinct member List.mem_cons_self same
  rw [poll_first]
  exact awaits.polled_failure (orderly.polled retention)

end Lane

/-! ## Runs -/

namespace Run

/-- A step ends the load of a call for a project, and the load has failed. -/
structure Fails (retention : Retention) (run : Run) (step : Step) (project : String)
    (leader : CallId) (failure : Failure) : Prop where
  /-- The call polls its loader and is done. -/
  ends : ∃ event, run.event? retention step = some event ∧ event.id = leader ∧
    event.project = project ∧ event.progress.ended?.isSome
  /-- What the loader yields is a failure or no call graph. -/
  fails : ∃ load, run.cache.Brings load step ∧ load.result = .error failure

/-- In a step a failure comes about that a call in flight for a project is to return: its own or,
if it is in flight on, a copy of that of another. -/
def Gets (retention : Retention) (run : Run) (step : Step) (project : String) (id : CallId)
    (given : Failure) : Prop :=
  ∃ leader failure, run.Fails retention step project leader failure ∧
    ((leader = id ∧ given = failure) ∨
      (leader ≠ id ∧ (run.step retention step).1.cache.InFlight project id ∧
        given.IsCopyOf failure))

/-- All who are in flight for a project return one failure. -/
structure Shares (retention : Retention) (run : Run) (project : String) (copy : Failure) :
    Prop where
  /-- Whoever of them is done, whenever it is, returns the failure. -/
  equal : ∀ id later result, run.cache.InFlight project id →
    run.resultOf? retention id later = some result → result = .error copy
  /-- Whoever of them owns the lock is done with its next poll and does not use its loader. -/
  atOnce : ∀ id later, run.cache.InFlight project id →
    (∀ step ∈ later, step.drops id = false) → run.resultOf? retention id later = none →
      ∀ call ∈ (run.steps retention later).cache.calls, call.id = id →
        (run.steps retention later).cache.owns call = true →
          (run.steps retention later).event? retention (.poll id) =
            some ⟨id, project, ⟨.done (.error copy), .unused⟩⟩
  /-- All of them are done after enough rounds of polls. -/
  served : ∀ rounds, run.PolledInRounds retention rounds →
    run.cache.remaining project ≤ rounds.length → ∀ id, run.cache.InFlight project id →
      run.resultOf? retention id (rounds.flatten.map Step.poll) = some (.error copy)

/-- What holds of every run: who runs a loader that fails gets the failure, who is in flight then
gets a copy, which is the same for all, and nobody gets a failure in another way. -/
structure SharesFailures (retention : Retention) (run : Run) : Prop where
  own : ∀ step project leader failure, run.Fails retention step project leader failure →
    run.returned? retention leader step = some (.error failure)
  joined : ∀ step project leader failure, run.Fails retention step project leader failure →
    ∃ copy : Failure, copy.IsCopyOf failure ∧
      (run.step retention step).1.Shares retention project copy
  /-- What a call returns that arrives now came about in a step between its arrival and its end. -/
  only : ∀ id project load later given,
    run.answer? retention id project load later = some (.error given) →
      ∃ before step behind, .call id project load :: later = before ++ step :: behind ∧
        (run.steps retention before).Gets retention step project id given

section Failing

variable {run : Run} (reachable : run.cache.Reachable) {retention : Retention} {step : Step}
  {project : String} {leader id : CallId} {failure : Failure}

include reachable

/-- The end of a load: it comes to what the call brought, and all in flight can learn of it. -/
theorem ended_of_event {event : Event} (happens : run.event? retention step = some event)
    {result : Except Failure Loaded} (ended : event.progress.ended? = some result) :
    (∃ load, run.cache.Brings load step ∧ result = load.result.map (Loaded.mk event.id)) ∧
      ((run.step retention step).1.cache.lane event.project).TellsAll ⟨event.id, result⟩ := by
  have acts := reachable.act_of_event happens
  have subject := subject?_of_event happens
  have orderly := reachable.orderly event.project
  have distinct := reachable.sound.lane_names event.project
  rw [lane_step reachable]
  have can := Lane.acted retention (run.cache.lane event.project) event.project step
  generalize (run.cache.lane event.project).act retention event.project step = after at can acts ⊢
  cases can with
  | arrives id load =>
    obtain rfl : id = event.id := Option.some.inj subject
    rw [← Option.some.inj acts] at ended
    obtain ⟨own, tells⟩ := (orderly.leave event.id).arrive_ended load
      (Lane.nodup_leave distinct event.id) (fun _ member => Lane.ne_of_mem_leave member) ended
    exact ⟨⟨load, rfl, own⟩, tells⟩
  | polls id served =>
    obtain rfl : id = event.id := Option.some.inj subject
    rw [← Option.some.inj acts] at ended
    obtain ⟨⟨inquiry, member, same, own⟩, tells⟩ := orderly.poll_ended distinct ended
    obtain ⟨call, present, rfl⟩ := List.mem_map.mp member
    rw [← same]
    exact ⟨⟨call.load, ⟨call, (mem_callsFor.mp present).1, rfl, rfl⟩, own⟩, same ▸ tells⟩
  | passes | misses | cancels | asks => cases acts

/-- What fails in a step is what the poll of the call comes to. -/
theorem Fails.exists_event (fails : run.Fails retention step project leader failure) :
    ∃ event, run.event? retention step = some event ∧ event.id = leader ∧
      event.project = project ∧ event.progress.ended? = some (.error failure) := by
  obtain ⟨⟨event, happens, rfl, rfl, done⟩, load, brings, bad⟩ := fails
  obtain ⟨result, ended⟩ := Option.isSome_iff_exists.mp done
  obtain ⟨⟨own, bringsOwn, rfl⟩, -⟩ := ended_of_event reachable happens ended
  obtain rfl := reachable.sound.brings_unique brings bringsOwn
  rw [bad] at ended
  exact ⟨event, happens, rfl, rfl, ended⟩

theorem fails_of_event {event : Event} (happens : run.event? retention step = some event)
    (ended : event.progress.ended? = some (.error failure)) :
    run.Fails retention step event.project event.id failure := by
  obtain ⟨⟨load, brings, own⟩, -⟩ := ended_of_event reachable happens ended
  exact ⟨⟨event, happens, rfl, rfl, Option.isSome_of_eq_some ended⟩, load, brings,
    Except.map_eq_error_iff.mp own.symm⟩

omit reachable in
theorem exists_event_of_attempt? {attempt : Attempt}
    (past : run.attempt? retention project step = some attempt) :
    ∃ event, run.event? retention step = some event ∧ event.project = project ∧
      event.id = attempt.id ∧ event.progress.ended? = some attempt.result := by
  obtain ⟨event, found, told⟩ := Option.bind_eq_some_iff.mp past
  obtain ⟨happens, own⟩ := Option.filter_eq_some_iff.mp found
  obtain ⟨result, ended, rfl⟩ := Option.map_eq_some_iff.mp told
  exact ⟨event, happens, by simpa using own, rfl, ended⟩

/-- An attempt that fails, as its call and the project see it. -/
theorem fails_of_attempt?
    (past : run.attempt? retention project step = some ⟨leader, .error failure⟩) :
    run.Fails retention step project leader failure := by
  obtain ⟨event, happens, rfl, same, ended⟩ := exists_event_of_attempt? past
  obtain rfl : event.id = leader := same
  exact fails_of_event reachable happens ended

theorem returned?_of_fails (fails : run.Fails retention step project leader failure) :
    run.returned? retention leader step = some (.error failure) := by
  obtain ⟨event, happens, rfl, -, ended⟩ := fails.exists_event reachable
  have done : event.progress.result? = some (.error failure) := by
    unfold Progress.ended? at ended
    split at ended
    · cases ended
    · exact ended
  simp [returned?, happens, Option.filter_some, done]

/-- Everybody in flight after a load has failed can learn of its failure. -/
theorem awaits_of_fails (fails : run.Fails retention step project leader failure)
    (inFlight : (run.step retention step).1.cache.InFlight project id) :
    ∃ failuresSeen, ((run.step retention step).1.cache.lane project).Awaits id failuresSeen
      (some ⟨leader, .error failure⟩) := by
  obtain ⟨event, happens, rfl, rfl, ended⟩ := fails.exists_event reachable
  obtain ⟨call, member, own, rfl⟩ := inFlight
  have present := mem_lane member
  rw [own] at present
  exact ⟨_, (ended_of_event reachable happens ended).2 call.toInquiry present⟩

end Failing

section Sharing

variable {run : Run} (reachable : run.cache.Reachable) (retention : Retention) {project : String}
  {leader id : CallId} {failure : Failure} {failuresSeen : Nat}

include reachable

/-- A call that can learn of a failure returns a copy of it, whenever it is done. -/
theorem result_of_awaits
    (awaits : (run.cache.lane project).Awaits id failuresSeen (some ⟨leader, .error failure⟩))
    {later : List Step} {result : Except Failure Loaded}
    (finished : run.resultOf? retention id later = some result) :
    result = .error failure.shared := by
  obtain ⟨different, -⟩ := awaits.tells
  obtain ⟨attempt, past, same⟩ := first_of_resultOf? reachable retention awaits finished
  obtain rfl : ⟨leader, .error failure⟩ = attempt := Option.some.inj past
  rwa [Attempt.resultFor, if_neg different] at same

/-- When the lock is handed over to it, it is done with its next poll. -/
theorem event?_of_awaits
    (awaits : (run.cache.lane project).Awaits id failuresSeen (some ⟨leader, .error failure⟩))
    {call : Call} (member : call ∈ run.cache.calls) (named : call.id = id)
    (owns : run.cache.owns call = true) :
    run.event? retention (.poll id) =
      some ⟨id, project, ⟨.done (.error failure.shared), .unused⟩⟩ := by
  subst named
  obtain ⟨other, otherMember, rfl, sameName⟩ := inFlight_of_awaits awaits
  obtain rfl := reachable.sound.call_unique otherMember member sameName
  -- The owner of the lock is the first of its lane.
  obtain ⟨behind, line⟩ := (reachable.sound.owns_iff member).mp owns
  have front : (run.cache.lane other.project).queue =
      other.toInquiry :: behind.map Call.toInquiry := by
    rw [Cache.lane, line, List.map_cons]
  have acts : ((run.cache.lane other.project).act retention other.project (.poll other.id)).2 =
      some ⟨.done (.error failure.shared), .unused⟩ := by
    rw [Lane.act_poll_own other.project awaits.serves]
    exact congrArg some (awaits.poll_failure (reachable.orderly other.project)
      (reachable.sound.lane_names other.project) front)
  obtain ⟨⟨name, aim, progress⟩, happens, rfl, rfl⟩ := reachable.event_of_act acts
  obtain rfl : other.id = name := Option.some.inj (subject?_of_event happens)
  exact happens

end Sharing

/-- All in flight after a load has failed share one copy of its failure. -/
theorem shares_of_fails {run : Run} (reachable : run.cache.Reachable) {retention : Retention}
    {step : Step} {project : String} {leader : CallId} {failure : Failure}
    (fails : run.Fails retention step project leader failure) :
    (run.step retention step).1.Shares retention project failure.shared where
  equal := by
    intro id later result inFlight finished
    obtain ⟨failuresSeen, awaits⟩ := awaits_of_fails reachable fails inFlight
    exact result_of_awaits (reachable_step reachable step) retention awaits finished
  atOnce := by
    intro id later inFlight kept unfinished call member named owns
    obtain ⟨failuresSeen, awaits⟩ := awaits_of_fails reachable fails inFlight
    have after : (run.step retention step).1.cache.Reachable := reachable_step reachable step
    exact event?_of_awaits (reachable_steps after later) retention
      (awaits_steps after retention awaits kept unfinished) member named owns
  served := by
    intro rounds polled enough id inFlight
    obtain ⟨failuresSeen, awaits⟩ := awaits_of_fails reachable fails inFlight
    obtain ⟨call, member, rfl, rfl⟩ := inFlight
    have after : (run.step retention step).1.cache.Reachable := reachable_step reachable step
    obtain ⟨result, finished⟩ := resultOf?_of_rounds after polled member enough
    rw [finished, result_of_awaits after retention awaits finished]

section Getting

variable {run : Run} (reachable : run.cache.Reachable) {retention : Retention} {step : Step}
  {project : String} {id : CallId} {given : Failure} {failuresSeen : Nat} {attempt : Attempt}

include reachable

/-- The failure of a call's own load. -/
theorem gets_of_returned (returned : run.returned? retention id step = some (.error given))
    (past : run.attempt? retention project step = some attempt)
    (same : .error given = attempt.resultFor id) : run.Gets retention step project id given := by
  obtain ⟨event, happens, rfl, own, ended⟩ := exists_event_of_attempt? past
  have named : event.id = id := by
    by_contra different
    simp [returned?, happens, Option.filter_some, different] at returned
  rw [Attempt.resultFor, if_pos (own.symm.trans named)] at same
  rw [← same] at ended
  exact ⟨event.id, given, fails_of_event reachable happens ended, .inl ⟨named, rfl⟩⟩

/-- The failure of another load, of which a call in flight can learn from now on. -/
theorem gets_of_awaits
    (awaits : ((run.step retention step).1.cache.lane project).Awaits id failuresSeen
      (some attempt))
    (past : run.attempt? retention project step = some attempt)
    (same : .error given = attempt.resultFor id) : run.Gets retention step project id given := by
  obtain ⟨leader, result⟩ := attempt
  cases result with
  | ok loaded =>
    obtain ⟨different, -⟩ := awaits.tells
    rw [Attempt.resultFor, if_neg different] at same
    cases same
  | error failure =>
    obtain ⟨different, -⟩ := awaits.tells
    rw [Attempt.resultFor, if_neg different] at same
    obtain rfl : given = failure.shared := Except.error.inj same
    exact ⟨leader, failure, fails_of_attempt? reachable past,
      .inr ⟨different, inFlight_of_awaits awaits, failure.isCopyOf_shared⟩⟩

/-- A call in flight that returns a failure could learn of it before, or it came about since. -/
theorem gets_of_resultOf? {ended : Option Attempt}
    (awaits : (run.cache.lane project).Awaits id failuresSeen ended) {later : List Step}
    (finished : run.resultOf? retention id later = some (.error given)) :
    (∃ attempt, ended = some attempt ∧ .error given = attempt.resultFor id) ∨
      ∃ before step behind, later = before ++ step :: behind ∧
        (run.steps retention before).Gets retention step project id given := by
  -- Along the steps the call keeps what it can learn of, and learns only where that is nothing.
  induction later generalizing run ended with
  | nil => cases finished
  | cons step later ih =>
    unfold resultOf? at finished
    split at finished
    · cases finished
    rename_i kept
    have follows := follows_step reachable retention awaits (eq_false_of_ne_true kept)
    cases returned : run.returned? retention id step with
    | some result =>
      rw [returned] at finished follows
      obtain rfl : result = .error given := Option.some.inj finished
      obtain ⟨attempt, past, same⟩ := follows
      rcases Option.or_eq_some_iff.mp past with told | ⟨-, now⟩
      · exact .inl ⟨attempt, told, same⟩
      · exact .inr ⟨[], step, later, rfl, gets_of_returned reachable returned now same⟩
    | none =>
      rw [returned] at finished follows
      rcases ih (reachable_step reachable step) follows finished with
        ⟨attempt, past, same⟩ | ⟨before, failing, behind, rfl, gets⟩
      · rcases Option.or_eq_some_iff.mp past with told | ⟨untold, now⟩
        · exact .inl ⟨attempt, told, same⟩
        · rw [untold, Option.none_or, now] at follows
          exact .inr ⟨[], step, later, rfl, gets_of_awaits reachable follows now same⟩
      · exact .inr ⟨step :: before, failing, behind, rfl, gets⟩

/-- A failure that a call returns came about after its arrival. -/
theorem gets_of_answer? {load : Load} {later : List Step}
    (finished : run.answer? retention id project load later = some (.error given)) :
    ∃ before step behind, .call id project load :: later = before ++ step :: behind ∧
      (run.steps retention before).Gets retention step project id given := by
  cases resident : run.cache.resident? project with
  | some loaded =>
    rw [answer?, returned?_of_resident reachable retention id resident load] at finished
    cases finished
  | none =>
    have follows := follows_arrival reachable retention id resident load
    unfold answer? at finished
    cases returned : run.returned? retention id (.call id project load) with
    | some result =>
      rw [returned] at finished follows
      obtain rfl : result = .error given := Option.some.inj finished
      obtain ⟨attempt, past, same⟩ := follows
      exact ⟨[], _, later, rfl, gets_of_returned reachable returned past same⟩
    | none =>
      rw [returned] at finished follows
      rcases gets_of_resultOf? (reachable_step reachable _) follows finished with
        ⟨attempt, past, same⟩ | ⟨before, failing, behind, rfl, gets⟩
      · rw [past] at follows
        exact ⟨[], _, later, rfl, gets_of_awaits reachable follows past same⟩
      · exact ⟨_ :: before, failing, behind, rfl, gets⟩

end Getting

/-- In every run all who share a failure share the same. -/
theorem sharesFailures_of_start (retention : Retention) (steps : List Step) :
    (start.steps retention steps).SharesFailures retention where
  own := fun _ _ _ _ fails => returned?_of_fails (reachable_of_start retention steps) fails
  joined := fun _ _ _ failure fails =>
    ⟨failure.shared, failure.isCopyOf_shared,
      shares_of_fails (reachable_of_start retention steps) fails⟩
  only := fun _ _ _ _ _ finished => gets_of_answer? (reachable_of_start retention steps) finished

/-- A load that fails while two calls wait for it. -/
def twoWaiters : List Step :=
  [.call "a" "App" ⟨.error (.json "EOF"), 1⟩, .call "b" "App" ⟨.ok .null, 0⟩,
    .call "c" "App" ⟨.error (.unknownProject "x"), 0⟩]

/-- Both get the copy, though one of their loaders would succeed and the other fail in another
way. -/
theorem shares_with_twoWaiters : ∃ copy : Failure, copy.IsCopyOf (.json "EOF") ∧
    ∀ id ∈ ["b", "c"],
      ((start.steps .dropIdle twoWaiters).step .dropIdle (.poll "a")).1.resultOf? .dropIdle id
        [.poll "c", .poll "b", .poll "c"] = some (.error copy) := by
  have fails : (start.steps .dropIdle twoWaiters).Fails .dropIdle (.poll "a") "App" "a"
      (.json "EOF") :=
    ⟨⟨_, rfl, rfl, rfl, rfl⟩, ⟨.error (.json "EOF"), 1⟩, ⟨_, List.mem_cons_self, rfl, rfl⟩, rfl⟩
  obtain ⟨copy, isCopy, shares⟩ :=
    (sharesFailures_of_start .dropIdle twoWaiters).joined _ _ _ _ fails
  refine ⟨copy, isCopy, fun id member => ?_⟩
  apply shares.served [["c", "b"], ["c"]] ⟨by decide, by decide, trivial⟩ (by decide)
  rcases List.mem_pair.mp member with rfl | rfl
  · exact ⟨_, List.mem_cons_self, rfl, rfl⟩
  · exact ⟨_, List.mem_cons_of_mem _ List.mem_cons_self, rfl, rfl⟩

end Run

end Cache

end CallAtlas
