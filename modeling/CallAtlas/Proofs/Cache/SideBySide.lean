import CallAtlas.Proofs.Cache.SingleFlight

/-!
# Runs side by side

Two runs can be compared lane by lane. Which poll a step is can be read off the lanes, and what a
run shows of a project and remembers of it depends on nothing but the polls of the calls for it and
its lane.
-/

namespace CallAtlas.Cache

/-- The calls in flight for a project in the order of their arrival: what each of them brings along
and remembers, and whether it owns the lock. -/
def inquiriesFor (cache : Cache) (project : String) : List (Inquiry × Bool) :=
  (cache.callsFor project).map fun call => (call.toInquiry, cache.owns call)

/-- Whether a call owns the lock is seen from its lane. -/
theorem Sound.inquiriesFor_eq {cache : Cache} (sound : cache.Sound) (project : String) :
    cache.inquiriesFor project = (cache.lane project).queue.map fun inquiry =>
      (inquiry, decide ((cache.lane project).queue.head?.map Inquiry.id = some inquiry.id)) := by
  unfold inquiriesFor lane
  rw [List.map_map]
  refine List.map_congr_left fun call present => ?_
  obtain ⟨inFlight, rfl⟩ := mem_callsFor.mp present
  have lock := sound.locks _ _ (sound.current call inFlight)
  rw [owns, lock]
  simp [FairLock.ofLine]

/-- What a step shows that is the poll of a call does not depend on what else is the case. -/
theorem Sound.event_congr {cache other : Cache} (sound : cache.Sound) (soundOther : other.Sound)
    {retention otherRetention : Retention} {step otherStep : Step} {project : String}
    (subject : step.subject? = otherStep.subject?)
    (same : ((cache.lane project).act retention project step).2 =
      ((other.lane project).act otherRetention project otherStep).2) :
    (cache.act retention step).2.filter (fun event => event.project = project) =
      (other.act otherRetention otherStep).2.filter fun event => event.project = project := by
  rw [sound.event_act, soundOther.event_act] at same
  cases polled : (cache.act retention step).2.filter fun event => event.project = project with
  | none =>
    rw [polled] at same
    exact (Option.map_eq_none_iff.mp same.symm).symm
  | some event =>
    rw [polled] at same
    obtain ⟨twin, polledOther, progress⟩ := Option.map_eq_some_iff.mp same.symm
    obtain ⟨happens, own⟩ := Option.filter_eq_some_iff.mp polled
    obtain ⟨happensOther, ownOther⟩ := Option.filter_eq_some_iff.mp polledOther
    have name : event.id = twin.id := Option.some.inj <|
      (subject?_of_event happens).symm.trans (subject.trans (subject?_of_event happensOther))
    have project : event.project = twin.project :=
      (of_decide_eq_true own).trans (of_decide_eq_true ownOther).symm
    rw [polledOther]
    obtain ⟨id, project, progress⟩ := event
    obtain rfl := name
    obtain rfl := project
    obtain rfl := progress
    rfl

namespace Run

/-- What a run remembers. -/
def history (run : Run) : Run :=
  { run with cache := {} }

/-- What a run remembers of a project. -/
def historyOf (run : Run) (project : String) : Run where
  loads := run.loads.filter fun load => load.2 = project
  finished := run.finished.filter fun finish => finish.project = project

variable {run : Run} {retention : Retention} {project : String}

/-- What a run remembers grows by the polls of calls. -/
theorem history_step (run : Run) (retention : Retention) (step : Step) :
    (run.step retention step).1.history =
      ((run.event? retention step).map run.history.note).getD run.history := by
  have noted : (run.step retention step).1.history =
      (((run.event? retention step).map run.note).getD run).history := rfl
  rw [noted]
  cases run.event? retention step with
  | none => rfl
  | some event => rfl

theorem sightOf_history (run : Run) (event : Event) :
    run.history.sightOf event = run.sightOf event :=
  rfl

theorem loadsFor_historyOf (run : Run) (project : String) :
    (run.historyOf project).loadsFor project = run.loadsFor project := by
  simp [loadsFor, historyOf, List.filter_filter]

/-- Which call returned a graph first is seen from the calls for its project. -/
theorem sightOf_historyOf (run : Run) (event : Event) :
    (run.historyOf event.project).sightOf event = run.sightOf event := by
  have sameAs (loaded : Loaded) :
      (run.historyOf event.project).sameAs? event.project loaded =
        run.sameAs? event.project loaded := by
    unfold sameAs? historyOf
    rw [List.find?_filter]
    congr 2
    funext finish
    by_cases own : finish.project = event.project <;> simp [own]
  unfold sightOf
  simp only [sameAs]

theorem historyOf_note_own (run : Run) {event : Event} (own : event.project = project) :
    (run.note event).historyOf project = (run.historyOf project).note event := by
  subst own
  unfold note historyOf
  congr 1
  · dsimp only
    split <;> simp
  · dsimp only
    split <;> simp

theorem historyOf_note_other (run : Run) {event : Event} (other : event.project ≠ project) :
    (run.note event).historyOf project = run.historyOf project := by
  unfold note historyOf
  congr 1
  · dsimp only
    split <;> simp [other]
  · dsimp only
    split <;> simp [other]

/-- What a run remembers of a project grows by the polls of the calls for it. -/
theorem historyOf_step (run : Run) (retention : Retention) (step : Step) (project : String) :
    (run.step retention step).1.historyOf project =
      (((run.event? retention step).filter fun event => event.project = project).map
        (run.historyOf project).note).getD (run.historyOf project) := by
  have noted : (run.step retention step).1.historyOf project =
      (((run.event? retention step).map run.note).getD run).historyOf project := rfl
  rw [noted]
  cases run.event? retention step with
  | none => rfl
  | some event =>
    by_cases own : event.project = project
    · simp [Option.filter_some, own, historyOf_note_own]
    · simp [Option.filter_some, own, historyOf_note_other]

theorem sight_of_event {step : Step} {event : Event}
    (happens : run.event? retention step = some event) :
    (run.step retention step).2 = run.sightOf event := by
  show run.sight step (run.event? retention step) = run.sightOf event
  rw [happens]
  rfl

end Run

end CallAtlas.Cache
