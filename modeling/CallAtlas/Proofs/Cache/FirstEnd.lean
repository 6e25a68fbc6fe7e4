import CallAtlas.Proofs.Cache.Waiting

/-!
# The first attempt to end decides

A call returns the graph that is resident when it arrives, or else what the first load for its
project that ends after its arrival has come to: the graph, or the failure if it is its own load, or
a copy of the failure.
-/

namespace CallAtlas.Cache

namespace Run

/-- The attempt for a project that a step ends. -/
def attempt? (retention : Retention) (run : Run) (project : String) (step : Step) :
    Option Attempt :=
  ((run.event? retention step).filter fun event => event.project = project).bind Event.attempt?

/-- The first attempt for a project that ends within some steps. -/
def firstEnd? (retention : Retention) (run : Run) (project : String) : List Step → Option Attempt
  | [] => none
  | step :: later =>
    (run.attempt? retention project step).or
      ((run.step retention step).1.firstEnd? retention project later)

/-- What the call of a name returns in a step, if it is done then. -/
def returned? (retention : Retention) (run : Run) (id : CallId) (step : Step) :
    Option (Except Failure Loaded) :=
  ((run.event? retention step).filter fun event => event.id = id).bind fun event =>
    event.progress.result?

/-- What the call in flight of a name returns within some steps, if it is done then and not dropped
before. -/
def resultOf? (retention : Retention) (run : Run) (id : CallId) :
    List Step → Option (Except Failure Loaded)
  | [] => none
  | step :: later =>
    if step.drops id then none
    else (run.returned? retention id step).or
      ((run.step retention step).1.resultOf? retention id later)

/-- What a call returns that arrives now, if it is done within the steps after its arrival. -/
def answer? (retention : Retention) (run : Run) (id : CallId) (project : String) (load : Load)
    (later : List Step) : Option (Except Failure Loaded) :=
  (run.returned? retention id (.call id project load)).or
    ((run.step retention (.call id project load)).1.resultOf? retention id later)

/-- What holds of every run: the first attempt for a project that ends after the arrival of a call
decides what the call returns, unless the graph was resident at its arrival. -/
structure FirstEndDecides (retention : Retention) (run : Run) : Prop where
  /-- A graph that is resident is returned at once. -/
  resident : ∀ id project load loaded, run.cache.resident? project = some loaded →
    run.returned? retention id (.call id project load) = some (.ok loaded)
  /-- A call that is done returns its own outcome if its attempt was the first to end after its
  arrival, or else the graph or a copy of the failure of the attempt that was. -/
  first : ∀ id project load later result, run.cache.resident? project = none →
    run.answer? retention id project load later = some result →
      ∃ attempt, run.firstEnd? retention project (.call id project load :: later) = some attempt ∧
        result = attempt.resultFor id
  /-- A call in flight does not use its loader once an attempt has ended after its arrival. -/
  idle : ∀ id project load later attempt, run.cache.resident? project = none →
    run.answer? retention id project load later = none →
    (∀ step ∈ later, step.drops id = false) →
    run.firstEnd? retention project (.call id project load :: later) = some attempt →
      ∀ event, (run.steps retention (.call id project load :: later)).event? retention (.poll id) =
        some event → event.progress.loader = .unused
  /-- The failures that a call noted at its arrival are all there were, or all but one. -/
  missed : ∀ call ∈ run.cache.calls,
    call.failuresSeen ≤ (run.cache.store call.slot).failures ∧
      (run.cache.store call.slot).failures ≤ call.failuresSeen + 1

section Reading

variable {run : Run} {retention : Retention} {project : String} {step : Step} {id : CallId}

theorem event?_of_silent (reachable : run.cache.Reachable)
    (silent : ((run.cache.lane project).act retention project step).2 = none) :
    (run.event? retention step).filter (fun event => event.project = project) = none := by
  rw [reachable.sound.event_act retention step project] at silent
  exact Option.map_eq_none_iff.mp silent

theorem attempt?_of_silent (reachable : run.cache.Reachable)
    (silent : ((run.cache.lane project).act retention project step).2 = none) :
    run.attempt? retention project step = none := by
  rw [attempt?, event?_of_silent reachable silent]
  rfl

theorem attempt?_of_act (reachable : run.cache.Reachable) (subject : step.subject? = some id)
    {progress : Progress}
    (happens : ((run.cache.lane project).act retention project step).2 = some progress) :
    run.attempt? retention project step = progress.ended?.map (Attempt.mk id) := by
  obtain ⟨event, found, rfl, rfl⟩ := reachable.event_of_act happens
  obtain rfl := Option.some.inj (subject.symm.trans (subject?_of_event found))
  have polled : run.event? retention step = some event := found
  simp [attempt?, polled, Option.filter_some, Event.attempt?]

theorem returned?_of_act (reachable : run.cache.Reachable) (subject : step.subject? = some id)
    {progress : Progress}
    (happens : ((run.cache.lane project).act retention project step).2 = some progress) :
    run.returned? retention id step = progress.result? := by
  obtain ⟨event, found, rfl, rfl⟩ := reachable.event_of_act happens
  obtain rfl := Option.some.inj (subject.symm.trans (subject?_of_event found))
  have polled : run.event? retention step = some event := found
  simp [returned?, polled, Option.filter_some]

theorem returned?_of_other (elsewhere : step.subject? ≠ some id) :
    run.returned? retention id step = none := by
  unfold returned?
  cases found : run.event? retention step with
  | none => rfl
  | some event =>
    have different : event.id ≠ id := by
      rintro rfl
      exact elsewhere (subject?_of_event found)
    simp [Option.filter_some, different]

end Reading

section Following

variable {run : Run} (reachable : run.cache.Reachable) (retention : Retention) {id : CallId}
  {project : String} {failuresSeen : Nat} {ended : Option Attempt}

include reachable

/-- A call that arrives where a graph is resident returns it at once. -/
theorem returned?_of_resident (id : CallId) {loaded : Loaded}
    (resident : run.cache.resident? project = some loaded) (load : Load) :
    run.returned? retention id (.call id project load) = some (.ok loaded) := by
  rw [resident?_eq_graph] at resident
  have happens : ((run.cache.lane project).act retention project (.call id project load)).2 =
      some ⟨.done (.ok loaded), .unused⟩ := by
    have there : ((run.cache.lane project).leave id).graph = some loaded := resident
    rw [Lane.act_call_own, Lane.arrive, there]
  exact returned?_of_act reachable rfl happens

/-- The first poll of a call that arrives where no graph is resident. -/
theorem follows_arrival (id : CallId) (bare : run.cache.resident? project = none) (load : Load) :
    ((run.step retention (.call id project load)).1.cache.lane project).Follows id
      (run.cache.lane project).failures
      (run.attempt? retention project (.call id project load))
      (run.returned? retention id (.call id project load)) := by
  rw [resident?_eq_graph] at bare
  have happens : ((run.cache.lane project).act retention project (.call id project load)).2 =
      some (((run.cache.lane project).leave id).arrive retention id load).2 := by
    rw [Lane.act_call_own]
  rw [attempt?_of_act reachable rfl happens, returned?_of_act reachable rfl happens,
    lane_step reachable, Lane.act_call_own]
  exact ((reachable.orderly project).leave id).arrive_own bare
    (Lane.nodup_leave (reachable.sound.lane_names project) id)
    (fun _ member => Lane.ne_of_mem_leave member) load

variable (awaits : (run.cache.lane project).Awaits id failuresSeen ended)

include awaits

/-- A poll of a call in flight: the call awaits on or is done, and does not use its loader once an
attempt has ended. -/
theorem follows_poll :
    ((run.step retention (.poll id)).1.cache.lane project).Follows id failuresSeen
        (ended.or (run.attempt? retention project (.poll id)))
        (run.returned? retention id (.poll id)) ∧
      (ended.isSome → ∀ event, run.event? retention (.poll id) = some event →
        event.progress.loader = .unused) := by
  have served := awaits.serves
  have happens : ((run.cache.lane project).act retention project (.poll id)).2 =
      some ((run.cache.lane project).poll retention id).2 := by
    rw [Lane.act_poll_own project served]
  obtain ⟨follows, idle⟩ :=
    awaits.poll_own retention (reachable.orderly project) (reachable.sound.lane_names project)
  rw [attempt?_of_act reachable rfl happens, returned?_of_act reachable rfl happens,
    lane_step reachable, Lane.act_poll_own project served]
  refine ⟨follows, ?_⟩
  intro past event polled
  obtain ⟨other, found, -, same⟩ := reachable.event_of_act happens
  obtain rfl := Option.some.inj (polled.symm.trans found)
  rw [same]
  exact idle past

/-- A step that does not drop a call in flight: the call awaits on or is done. -/
theorem follows_step {step : Step} (kept : step.drops id = false) :
    ((run.step retention step).1.cache.lane project).Follows id failuresSeen
      (ended.or (run.attempt? retention project step)) (run.returned? retention id step) := by
  by_cases own : step.subject? = some id
  · obtain rfl : step = .poll id := step.eq_poll_of_kept own kept
    exact (follows_poll reachable retention awaits).1
  · rw [returned?_of_other own, lane_step reachable]
    cases happens : ((run.cache.lane project).act retention project step).2 with
    | none =>
      rw [attempt?_of_silent reachable happens, Option.or_none]
      exact awaits.act_silent kept happens
    | some progress =>
      obtain ⟨event, found, rfl, rfl⟩ := reachable.event_of_act happens
      have subject := subject?_of_event found
      rw [attempt?_of_act reachable subject happens]
      refine awaits.act_other (reachable.orderly _) subject ?_ happens
      rintro rfl
      exact own subject

/-- A call in flight that is done within some steps returns the outcome of the first attempt. -/
theorem first_of_resultOf? {later : List Step} {result : Except Failure Loaded}
    (finished : run.resultOf? retention id later = some result) :
    ∃ attempt, ended.or (run.firstEnd? retention project later) = some attempt ∧
      result = attempt.resultFor id := by
  induction later generalizing run ended with
  | nil => cases finished
  | cons step later ih =>
    unfold resultOf? at finished
    split at finished
    · cases finished
    · rename_i kept
      have follows := follows_step reachable retention awaits (eq_false_of_ne_true kept)
      rw [firstEnd?, ← Option.or_assoc]
      cases returned : run.returned? retention id step with
      | none =>
        rw [returned] at finished follows
        exact ih (reachable_step reachable step) follows finished
      | some own =>
        rw [returned] at finished follows
        obtain ⟨attempt, past, same⟩ := follows
        rw [past]
        exact ⟨attempt, rfl, (Option.some.inj finished).symm.trans same⟩

/-- A call that is not done within some steps, and not dropped, awaits on after them. -/
theorem awaits_steps {later : List Step} (kept : ∀ step ∈ later, step.drops id = false)
    (unfinished : run.resultOf? retention id later = none) :
    ((run.steps retention later).cache.lane project).Awaits id failuresSeen
      (ended.or (run.firstEnd? retention project later)) := by
  induction later generalizing run ended with
  | nil => rwa [firstEnd?, Option.or_none]
  | cons step later ih =>
    have stays := kept step List.mem_cons_self
    have follows := follows_step reachable retention awaits stays
    rw [resultOf?, if_neg (by simp [stays])] at unfinished
    obtain ⟨pending, unfinished⟩ := Option.or_eq_none_iff.mp unfinished
    rw [pending] at follows
    rw [firstEnd?, ← Option.or_assoc]
    exact ih (reachable_step reachable step) follows
      (fun next member => kept next (List.mem_cons_of_mem _ member)) unfinished

end Following

section Arriving

variable {run : Run} (reachable : run.cache.Reachable) {retention : Retention} {id : CallId}
  {project : String} (bare : run.cache.resident? project = none) {load : Load}
  {later : List Step}

include reachable bare

/-- A call that arrives where no graph is resident and is done within some steps. -/
theorem first_of_answer? {result : Except Failure Loaded}
    (finished : run.answer? retention id project load later = some result) :
    ∃ attempt, run.firstEnd? retention project (.call id project load :: later) = some attempt ∧
      result = attempt.resultFor id := by
  have follows := follows_arrival reachable retention id bare load
  rw [firstEnd?]
  unfold answer? at finished
  cases returned : run.returned? retention id (.call id project load) with
  | none =>
    rw [returned] at finished follows
    exact first_of_resultOf? (reachable_step reachable _) retention follows finished
  | some own =>
    rw [returned] at finished follows
    obtain ⟨attempt, past, same⟩ := follows
    rw [past]
    exact ⟨attempt, rfl, (Option.some.inj finished).symm.trans same⟩

/-- A call that arrived where no graph was resident and is still in flight after some steps. -/
theorem unused_of_firstEnd? (unfinished : run.answer? retention id project load later = none)
    (kept : ∀ step ∈ later, step.drops id = false) {attempt : Attempt}
    (past : run.firstEnd? retention project (.call id project load :: later) = some attempt)
    {event : Event}
    (happens : (run.steps retention (.call id project load :: later)).event? retention (.poll id) =
      some event) : event.progress.loader = .unused := by
  have follows := follows_arrival reachable retention id bare load
  obtain ⟨pending, unfinished⟩ := Option.or_eq_none_iff.mp unfinished
  rw [pending] at follows
  have arrived : (run.step retention (.call id project load)).1.cache.Reachable :=
    reachable_step reachable _
  have awaits := awaits_steps arrived retention follows kept unfinished
  rw [firstEnd?] at past
  exact (follows_poll (reachable_steps arrived later) retention awaits).2
    (Option.isSome_of_eq_some past) event happens

end Arriving

/-- In every run the first attempt to end decides. -/
theorem firstEndDecides_of_start (retention : Retention) (steps : List Step) :
    (start.steps retention steps).FirstEndDecides retention where
  resident := fun id _ load _ resident =>
    returned?_of_resident (reachable_of_start retention steps) retention id resident load
  first := fun _ _ _ _ _ bare finished =>
    first_of_answer? (reachable_of_start retention steps) bare finished
  idle := fun _ _ _ _ _ bare unfinished kept past _ happens =>
    unused_of_firstEnd? (reachable_of_start retention steps) bare unfinished kept past happens
  missed := by
    intro call member
    have reachable := reachable_of_start retention steps
    have orderly := reachable.orderly call.project
    rw [reachable.failures_eq member]
    exact ⟨orderly.noted _ (mem_lane member), orderly.due _ (mem_lane member)⟩

/-- A call that arrives during a load shares its failure, though its own loader would fail in
another way. -/
theorem first_of_two_failures :
    ∃ attempt, (start.steps .dropIdle [.call "a" "App" ⟨.error (.json "EOF"), 1⟩]).firstEnd?
        .dropIdle "App" [.call "b" "App" ⟨.error (.unknownProject "x"), 0⟩, .poll "a", .poll "b"] =
          some attempt ∧
      .error (.malformed "artifact" "EOF") = attempt.resultFor "b" :=
  (firstEndDecides_of_start .dropIdle [.call "a" "App" ⟨.error (.json "EOF"), 1⟩]).first "b" "App"
    ⟨.error (.unknownProject "x"), 0⟩ [.poll "a", .poll "b"] _ rfl rfl

end Run

end CallAtlas.Cache
