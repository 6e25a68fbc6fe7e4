import CallAtlas.Proofs.Cache.Orderly
import CallAtlas.Proofs.Cache.Simulation

/-!
# Reachable caches

Every cache that a run reaches is sound and has orderly lanes, and each lane of it is where the
steps of the run have taken it. What is proved of lanes so holds of runs.
-/

namespace CallAtlas

/-- What a poll of a call returns, if the call is done. -/
def Progress.result? (progress : Progress) : Option (Except Failure Loaded) :=
  match progress.reply with
  | .pending => none
  | .done result => some result

/-- What the load of a call has come to, if a poll of the call ended it. -/
def Progress.ended? (progress : Progress) : Option (Except Failure Loaded) :=
  if progress.loader = .unused then none else progress.result?

namespace Cache

/-- The call that a step is about. -/
def Step.subject? : Step → Option CallId
  | .call id _ _ | .poll id | .cancel id => some id
  | .get _ => none

/-- The poll of a call that a step of a run is. -/
def Run.event? (retention : Retention) (run : Run) (step : Step) : Option Event :=
  (run.cache.act retention step).2

/-- A cache that some run reaches. -/
structure Reachable (cache : Cache) : Prop where
  sound : cache.Sound
  orderly : ∀ project, (cache.lane project).Orderly

theorem reachable_start : Reachable {} where
  sound := sound_start
  orderly := fun _ => Lane.orderly_start

section Steps

variable {cache : Cache} (reachable : cache.Reachable) (retention : Retention)

include reachable

theorem Reachable.act (step : Step) : (cache.act retention step).1.Reachable where
  sound := reachable.sound.act retention step
  orderly := by
    intro project
    rw [reachable.sound.lane_act retention step project]
    exact (reachable.orderly project).act project step

end Steps

theorem resident?_eq_graph (cache : Cache) (project : String) :
    cache.resident? project = (cache.lane project).graph := by
  unfold resident? lane ledger
  cases cache.slot? project with
  | none => rfl
  | some slot => rfl

/-- The failures that a call in flight can find are those of its lane. -/
theorem Reachable.failures_eq {cache : Cache} (reachable : cache.Reachable) {call : Call}
    (member : call ∈ cache.calls) :
    (cache.store call.slot).failures = (cache.lane call.project).failures := by
  rw [← ledger_of_slot? (reachable.sound.current call member)]
  rfl

theorem mem_lane {cache : Cache} {call : Call} (member : call ∈ cache.calls) :
    call.toInquiry ∈ (cache.lane call.project).queue :=
  List.mem_map_of_mem (mem_callsFor.mpr ⟨member, rfl⟩)

theorem Sound.lane_names {cache : Cache} (sound : cache.Sound) (project : String) :
    ((cache.lane project).queue.map Inquiry.id).Nodup := by
  have names := sound.callsFor_names project
  unfold lane
  rw [List.map_map]
  exact names

theorem subject?_of_event {cache : Cache} {retention : Retention} {step : Step} {event : Event}
    (happens : (cache.act retention step).2 = some event) : step.subject? = some event.id := by
  cases step with
  | call id project load =>
    obtain rfl := Option.some.inj happens
    rfl
  | poll id =>
    obtain ⟨polled, -, rfl⟩ := Option.map_eq_some_iff.mp happens
    rfl
  | cancel id => cases happens
  | get project => cases happens

/-- What a step does with a call is what the lane of its project does. -/
theorem Reachable.act_of_event {cache : Cache} (reachable : cache.Reachable)
    {retention : Retention} {step : Step} {event : Event}
    (happens : (cache.act retention step).2 = some event) :
    ((cache.lane event.project).act retention event.project step).2 = some event.progress := by
  rw [reachable.sound.event_act retention step event.project, happens]
  simp [Option.filter_some]

/-- What a lane does with a call is what the step does. -/
theorem Reachable.event_of_act {cache : Cache} (reachable : cache.Reachable)
    {retention : Retention} {step : Step} {project : String} {progress : Progress}
    (happens : ((cache.lane project).act retention project step).2 = some progress) :
    ∃ event, (cache.act retention step).2 = some event ∧ event.project = project ∧
      event.progress = progress := by
  rw [reachable.sound.event_act retention step project] at happens
  obtain ⟨event, found, rfl⟩ := Option.map_eq_some_iff.mp happens
  obtain ⟨found, same⟩ := Option.filter_eq_some_iff.mp found
  exact ⟨event, found, by simpa using same, rfl⟩

namespace Run

variable {run : Run} {retention : Retention}

theorem steps_cons (step : Step) (later : List Step) :
    run.steps retention (step :: later) = (run.step retention step).1.steps retention later :=
  rfl

theorem steps_append (before behind : List Step) :
    run.steps retention (before ++ behind) =
      (run.steps retention before).steps retention behind :=
  List.foldl_append

theorem reachable_step (reachable : run.cache.Reachable) (step : Step) :
    (run.step retention step).1.cache.Reachable :=
  reachable.act retention step

theorem reachable_steps (reachable : run.cache.Reachable) (steps : List Step) :
    (run.steps retention steps).cache.Reachable := by
  induction steps generalizing run with
  | nil => exact reachable
  | cons step later ih => exact ih (reachable_step reachable step)

/-- A run only reaches reachable caches. -/
theorem reachable_of_start (retention : Retention) (steps : List Step) :
    (start.steps retention steps).cache.Reachable :=
  reachable_steps reachable_start steps

/-- A step takes each lane one step further. -/
theorem lane_step (reachable : run.cache.Reachable) (project : String) (step : Step) :
    (run.step retention step).1.cache.lane project =
      ((run.cache.lane project).act retention project step).1 :=
  reachable.sound.lane_act retention step project

/-- Several steps take each lane several steps further. -/
theorem lane_steps (reachable : run.cache.Reachable) (project : String) (steps : List Step) :
    (run.steps retention steps).cache.lane project =
      (run.cache.lane project).acts retention project steps := by
  induction steps generalizing run with
  | nil => rfl
  | cons step later ih =>
    refine (ih (reachable_step reachable step)).trans ?_
    exact congrArg (Lane.acts retention · project later) (lane_step reachable project step)

end Run

end Cache

end CallAtlas
