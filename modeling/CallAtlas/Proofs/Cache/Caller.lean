import CallAtlas.Proofs.Cache.Handover
import CallAtlas.Proofs.Cache.Transparent

/-!
# Caches as a caller sees them

Who calls a cache polls the call until it returns. Until then the call is served, whatever others
do, and there is always a call for the same project whose poll brings all of them nearer to their
end. Where nobody else is about, the first poll returns.
-/

namespace CallAtlas

namespace Ledger

/-- Who has seen every failure shares none. -/
theorem turn_of_counted {ledger : Ledger} (bare : ledger.graph = none)
    (counted : ledger.failures = (ledger.lastFailure.map FailedLoad.attempt).getD 0) :
    ledger.turn ledger.failures = .loads := by
  unfold turn sharedFailure?
  rw [bare]
  cases kept : ledger.lastFailure with
  | none => rfl
  | some failed =>
    have same : ledger.failures = failed.attempt := by
      rw [counted, kept]
      rfl
    simp only [same, Nat.lt_irrefl, if_false]

end Ledger

namespace Cache

theorem Step.drops_of_subject? {step : Step} {id : CallId} (elsewhere : step.subject? ≠ some id) :
    step.drops id = false := by
  cases step with
  | call other project load | cancel other =>
    have different : other ≠ id := fun same => elsewhere (congrArg some same)
    simpa [drops] using different
  | poll other | get project => rfl

theorem Lane.awaits_of_serves {lane : Lane} (orderly : lane.Orderly) {id : CallId}
    (served : lane.serves id = true) : ∃ failuresSeen ended, lane.Awaits id failuresSeen ended := by
  obtain ⟨inquiry, member, same⟩ := List.any_eq_true.mp served
  obtain rfl : inquiry.id = id := by simpa using same
  exact ⟨inquiry.failuresSeen, orderly.awaits member⟩

/-- A step polls a call for a project, and the call is served on if it does not return. -/
structure Polls (retention : Retention) (cache : Cache) (step : Step) (id : CallId)
    (project : String) (progress : Progress) : Prop where
  subject : step.subject? = some id
  event : (cache.act retention step).2 = some ⟨id, project, progress⟩
  served : progress.result? = none →
    ((cache.act retention step).1.lane project).serves id = true

theorem returned?_of_event {cache : Cache} {retention : Retention} {step : Step} {id : CallId}
    {project : String} {progress : Progress}
    (happens : (cache.act retention step).2 = some ⟨id, project, progress⟩) :
    (Run.mk cache [] []).returned? retention id step = progress.result? := by
  simp [Run.returned?, Run.event?, happens, Option.filter_some]

namespace Reachable

variable {cache : Cache} (reachable : cache.Reachable) (retention : Retention) {id : CallId}
  {project : String}

include reachable

/-- The arrival of a call is its first poll. -/
theorem polls_call (id : CallId) (project : String) (load : Load) :
    ∃ progress, cache.Polls retention (.call id project load) id project progress := by
  have whole : (Run.mk cache [] []).cache.Reachable := reachable
  refine ⟨_, rfl, rfl, ?_⟩
  intro pending
  have returned : (Run.mk cache [] []).returned? retention id (.call id project load) = none :=
    (returned?_of_event rfl).trans pending
  cases resident : cache.resident? project with
  | some loaded =>
    rw [Run.returned?_of_resident whole retention id resident load] at returned
    cases returned
  | none =>
    have follows := Run.follows_arrival whole retention id resident load
    rw [returned] at follows
    exact follows.serves

/-- A call that is served can be polled. -/
theorem polls_poll (served : (cache.lane project).serves id = true) :
    ∃ progress, cache.Polls retention (.poll id) id project progress := by
  have whole : (Run.mk cache [] []).cache.Reachable := reachable
  have happens : ((cache.lane project).act retention project (.poll id)).2 =
      some ((cache.lane project).poll retention id).2 := by
    rw [Lane.act_poll_own project served]
  obtain ⟨⟨name, aim, progress⟩, found, rfl, -⟩ := reachable.event_of_act happens
  obtain rfl : id = name := Option.some.inj (subject?_of_event found)
  refine ⟨progress, rfl, found, ?_⟩
  intro pending
  obtain ⟨failuresSeen, ended, awaits⟩ :=
    Lane.awaits_of_serves (reachable.orderly aim) served
  have follows := (Run.follows_poll whole retention awaits).1
  rw [(returned?_of_event found).trans pending] at follows
  exact follows.serves

/-- A call is served on as long as others act. -/
theorem serves_act (served : (cache.lane project).serves id = true) {step : Step}
    (elsewhere : step.subject? ≠ some id) :
    ((cache.act retention step).1.lane project).serves id = true := by
  have whole : (Run.mk cache [] []).cache.Reachable := reachable
  obtain ⟨failuresSeen, ended, awaits⟩ :=
    Lane.awaits_of_serves (reachable.orderly project) served
  have follows := Run.follows_step whole retention awaits (Step.drops_of_subject? elsewhere)
  rw [Run.returned?_of_other elsewhere] at follows
  exact follows.serves

/-- Where a call is served, some call for its project gets nearer to its end when it is polled. -/
theorem poll_first (served : (cache.lane project).serves id = true) :
    ∃ first, (cache.lane project).serves first = true ∧
      ((cache.act retention (.poll first)).1.lane project).budget <
        (cache.lane project).budget := by
  cases line : (cache.lane project).queue with
  | nil =>
    rw [Lane.serves, line] at served
    cases served
  | cons first behind =>
    refine ⟨first.id, by simp [Lane.serves, line], ?_⟩
    rw [reachable.sound.lane_act retention (.poll first.id) project]
    exact (reachable.orderly project).budget_round project line (List.mem_singleton_self first.id)

/-- A call that is alone runs its loader in its first poll, which ends it. -/
theorem pollCall_alone (idle : cache.calls = []) {slot : SlotId}
    (found : cache.slot? project = some slot) (bare : (cache.store slot).graph = none) (id : CallId)
    (outcome : Except Failure Json) :
    let call := cache.newCall project slot id ⟨outcome, 0⟩
    (cache.enroll call).pollCall retention call =
      ((cache.enroll call).conclude retention call, ⟨.done call.outcome, .started⟩) := by
  intro call
  have enrolled : (cache.enroll call).Sound := by
    apply reachable.sound.enroll found
    rw [idle]
    simp
  have owns := (enrolled.owns_iff (mem_enroll cache call)).mpr
    ⟨[], callsFor_alone idle project slot id ⟨outcome, 0⟩⟩
  have counted := (reachable.orderly project).counted
  rw [lane, ledger_of_slot? found] at counted
  have same : ((cache.enroll call).store slot).toLedger = (cache.store slot).toLedger := by
    simp [enroll, write, call, newCall]
  have loads := Ledger.turn_of_counted bare (counted bare)
  rw [← same] at loads
  rw [pollCall, if_pos owns]
  show (cache.enroll call).takeTurn retention call
    (((cache.enroll call).store slot).turn (cache.store slot).failures) = _
  rw [← congrArg Ledger.failures same, loads]
  rfl

/-- A slot that is opened shows in no lane. -/
theorem openSlot (project : String) : (cache.openSlot project).1.Reachable where
  sound := reachable.sound.openSlot project
  orderly := by
    intro other
    rw [reachable.sound.lane_openSlot]
    exact reachable.orderly other

/-- Where no call is in flight, a call returns in its first poll what it returns to somebody who
keeps nobody waiting. -/
theorem act_call_alone (idle : cache.calls = []) (project : String)
    (load : String → Except Failure Json) :
    let visit := cache.getOrLoad project load
    let acted := cache.act .dropIdle (.call project project ⟨load project, 0⟩)
    acted.1 = visit.1 ∧ visit.1.calls = [] ∧
      (acted.2.bind fun event => event.progress.result?).map (Except.map Loaded.graph) =
        some visit.2.1 := by
  have nobody : cache.cancel project = (cache, false) := by
    rw [cancel, call?, idle]
    rfl
  have opened := reachable.openSlot project
  have found := slot?_openSlot cache project
  have still := (calls_openSlot cache project).trans idle
  simp only [Cache.act, nobody, Cache.call, Cache.getOrLoad, Cache.arrive]
  generalize cache.openSlot project = made at opened found still
  obtain ⟨cache, slot⟩ := made
  dsimp only at opened found still ⊢
  cases graph : (cache.store slot).graph with
  | some loaded => exact ⟨rfl, still, rfl⟩
  | none =>
    simp only [opened.pollCall_alone .dropIdle still found graph project (load project)]
    refine ⟨trivial, ?_, rfl⟩
    rw [calls_conclude]
    show (cache.calls ++ [_]).filter _ = []
    simp [still]

end Reachable

end Cache

end CallAtlas
