import CallAtlas.Proofs.Cache.SideBySide

/-!
# Projects apart

What happens for one project does not depend on what happens for others. A run is compared with the
run that is left of it for one project: the calls for the project are told the same in both, they
stand where they stand in the other, and they load in the same order.
-/

namespace CallAtlas.Cache

/-- Whether a call for a project is in flight under a name. -/
def hasCall (cache : Cache) (project : String) (id : CallId) : Bool :=
  cache.calls.any fun call => call.project = project ∧ call.id = id

/-- What of a step concerns a project: what is done to a call in flight for it, the arrival of a
call for it, or the question for its graph. A call for another project that comes under the name of
a call in flight for this one is, to this one, the drop of that call. -/
def part? (cache : Cache) (project : String) (step : Step) : Option Step :=
  match step with
  | .call id other _ =>
    if other = project then some step
    else if cache.hasCall project id then some (.cancel id)
    else none
  | .poll id | .cancel id => if cache.hasCall project id then some step else none
  | .get other => if other = project then some step else none

/-- A step with the drop written out that the arrival of a call begins with. -/
def Step.spelled : Step → List Step
  | .call id project load => [.cancel id, .call id project load]
  | step => [step]

/-- Whether a step asks for the graph of a project. -/
def Step.asks : Step → String → Bool
  | .get other, project => other = project
  | _, _ => false

/-- What those are told who are there for a project. -/
structure Told where
  /-- The call that is polled, if it is one. -/
  subject : Option CallId
  sight : Sight
  /-- The calls whose loaders were started for the project by then. -/
  loads : List CallId

namespace Run

/-- What a step tells of a project: the reply to a call for it, or its graph. -/
def told? (retention : Retention) (run : Run) (project : String) (step : Step) : Option Told :=
  if (run.event? retention step).any (fun event => event.project = project) ||
      step.asks project then
    some ⟨step.subject?, (run.step retention step).2,
      (run.step retention step).1.loadsFor project⟩
  else none

/-- What several steps tell of a project. -/
def toldBy (retention : Retention) (project : String) (run : Run) : List Step → List Told
  | [] => []
  | step :: later =>
    (run.told? retention project step).toList ++
      toldBy retention project (run.step retention step).1 later

/-- What is left of several steps for a project. -/
def stepsFor (retention : Retention) (project : String) (run : Run) : List Step → List Step
  | [] => []
  | step :: later =>
    (run.cache.part? project step).toList ++
      stepsFor retention project (run.step retention step).1 later

/-- The steps of a run beside what is left of them for a project. -/
structure Isolated (retention : Retention) (project : String) (steps left : List Step) : Prop where
  /-- Steps are left out, and no other steps come in. -/
  fewer : left.Sublist (steps.flatMap Step.spelled)
  spelled : start.steps retention (steps.flatMap Step.spelled) = start.steps retention steps
  own : ∀ step ∈ left, (∀ id other load, step = .call id other load → other = project) ∧
    ∀ other, step = .get other → other = project
  /-- The calls for the project are told the same, and so are those who ask for its graph. -/
  told : start.toldBy retention project steps = start.toldBy retention project left
  calls : (start.steps retention steps).cache.inquiriesFor project =
    (start.steps retention left).cache.inquiriesFor project
  loads : (start.steps retention steps).loadsFor project =
    (start.steps retention left).loadsFor project
  resident : (start.steps retention steps).cache.resident? project =
    (start.steps retention left).cache.resident? project

end Run

section Parts

variable {cache : Cache} {project : String} {step part : Step}

/-- What is left of a step for a project. -/
inductive Parted (cache : Cache) (project : String) : Step → Option Step → Prop where
  | arrives (id : CallId) (load : Load) :
    Parted cache project (.call id project load) (some (.call id project load))
  | drops (id : CallId) (other : String) (load : Load) (elsewhere : other ≠ project)
      (present : cache.hasCall project id = true) :
    Parted cache project (.call id other load) (some (.cancel id))
  | passes (id : CallId) (other : String) (load : Load) (elsewhere : other ≠ project)
      (absent : cache.hasCall project id = false) :
    Parted cache project (.call id other load) none
  | polls (id : CallId) (present : cache.hasCall project id = true) :
    Parted cache project (.poll id) (some (.poll id))
  | misses (id : CallId) (absent : cache.hasCall project id = false) :
    Parted cache project (.poll id) none
  | cancels (id : CallId) (present : cache.hasCall project id = true) :
    Parted cache project (.cancel id) (some (.cancel id))
  | spares (id : CallId) (absent : cache.hasCall project id = false) :
    Parted cache project (.cancel id) none
  | asks : Parted cache project (.get project) (some (.get project))
  | ignores (other : String) (elsewhere : other ≠ project) :
    Parted cache project (.get other) none

theorem parted (cache : Cache) (project : String) (step : Step) :
    Parted cache project step (cache.part? project step) := by
  cases step with
  | call id other load =>
    unfold part?
    dsimp only
    split
    · rename_i own
      exact own ▸ .arrives id load
    · rename_i elsewhere
      split
      · rename_i present
        exact .drops id other load elsewhere present
      · rename_i absent
        exact .passes id other load elsewhere (eq_false_of_ne_true absent)
  | poll id =>
    unfold part?
    dsimp only
    split
    · rename_i present
      exact .polls id present
    · rename_i absent
      exact .misses id (eq_false_of_ne_true absent)
  | cancel id =>
    unfold part?
    dsimp only
    split
    · rename_i present
      exact .cancels id present
    · rename_i absent
      exact .spares id (eq_false_of_ne_true absent)
  | get other =>
    unfold part?
    dsimp only
    split
    · rename_i own
      exact own ▸ .asks
    · rename_i elsewhere
      exact .ignores other elsewhere

theorem Parted.of_eq {left : Option Step} (same : cache.part? project step = left) :
    Parted cache project step left :=
  same ▸ parted cache project step

theorem hasCall_eq_serves (cache : Cache) (project : String) (id : CallId) :
    cache.hasCall project id = (cache.lane project).serves id := by
  rw [Bool.eq_iff_iff, serves_lane_iff]
  simp [hasCall]

theorem leave_of_hasCall_eq_false {id : CallId} (absent : cache.hasCall project id = false) :
    (cache.lane project).leave id = cache.lane project := by
  rw [hasCall_eq_serves] at absent
  exact Lane.leave_of_missing (by simpa [Lane.serves] using absent)

/-- A lane gets on by what is left of a step for its project. -/
theorem act_of_part? (retention : Retention) (left : cache.part? project step = some part) :
    (cache.lane project).act retention project step =
      (cache.lane project).act retention project part := by
  cases Parted.of_eq left with
  | arrives | polls | cancels | asks => rfl
  | drops id other load elsewhere present => exact Lane.act_call_other elsewhere load

/-- A lane does not see a step of which nothing is left. -/
theorem act_of_part?_eq_none (retention : Retention) (left : cache.part? project step = none) :
    (cache.lane project).act retention project step = (cache.lane project, none) := by
  cases Parted.of_eq left with
  | passes id other load elsewhere absent =>
    rw [Lane.act_call_other elsewhere, leave_of_hasCall_eq_false absent]
  | misses id absent =>
    rw [hasCall_eq_serves] at absent
    exact Lane.act_poll_other project (by simp [absent])
  | spares id absent => exact congrArg (·, none) (leave_of_hasCall_eq_false absent)
  | ignores other elsewhere => rfl

theorem subject?_of_part? (left : cache.part? project step = some part) :
    part.subject? = step.subject? := by
  cases Parted.of_eq left <;> rfl

theorem asks_of_part? (left : cache.part? project step = some part) :
    part.asks project = step.asks project := by
  cases Parted.of_eq left <;> rfl

theorem asks_of_part?_eq_none (left : cache.part? project step = none) :
    step.asks project = false := by
  cases Parted.of_eq left with
  | ignores other elsewhere => exact decide_eq_false elsewhere
  | passes | misses | spares => rfl

theorem sublist_part? (cache : Cache) (project : String) (step : Step) :
    (cache.part? project step).toList.Sublist step.spelled := by
  cases left : cache.part? project step with
  | none => exact List.nil_sublist _
  | some part => cases Parted.of_eq left <;> simp [Step.spelled]

theorem own_of_part? (left : cache.part? project step = some part) :
    (∀ id other load, part = .call id other load → other = project) ∧
      ∀ other, part = .get other → other = project := by
  cases Parted.of_eq left <;> simp

end Parts

/-! ## The run that is left -/

namespace Run

/-- Two runs that are alike as far as a project is concerned. -/
structure Alike (project : String) (run other : Run) : Prop where
  sound : run.cache.Sound
  soundOther : other.cache.Sound
  lane : run.cache.lane project = other.cache.lane project
  history : run.historyOf project = other.historyOf project

variable {retention : Retention} {project : String} {run other : Run} {step part : Step}

theorem alike_start (project : String) : Alike project start start :=
  ⟨sound_start, sound_start, rfl, rfl⟩

theorem Alike.loadsFor_eq (alike : Alike project run other) :
    run.loadsFor project = other.loadsFor project := by
  rw [← loadsFor_historyOf run, alike.history, loadsFor_historyOf]

theorem Alike.resident?_eq (alike : Alike project run other) :
    run.cache.resident? project = other.cache.resident? project := by
  rw [resident?_eq_graph, resident?_eq_graph, alike.lane]

theorem Alike.inquiriesFor_eq (alike : Alike project run other) :
    run.cache.inquiriesFor project = other.cache.inquiriesFor project := by
  rw [alike.sound.inquiriesFor_eq, alike.soundOther.inquiriesFor_eq, alike.lane]

theorem Alike.event?_eq (alike : Alike project run other) (retention : Retention)
    (left : run.cache.part? project step = some part) :
    (run.event? retention step).filter (fun event => event.project = project) =
      (other.event? retention part).filter fun event => event.project = project := by
  refine alike.sound.event_congr alike.soundOther (subject?_of_part? left).symm ?_
  rw [act_of_part? retention left, alike.lane]

theorem Alike.event?_eq_none (alike : Alike project run other) (retention : Retention)
    (left : run.cache.part? project step = none) :
    (run.event? retention step).filter (fun event => event.project = project) = none := by
  have polled := alike.sound.event_act retention step project
  rw [act_of_part?_eq_none retention left] at polled
  exact Option.map_eq_none_iff.mp polled.symm

/-- A step keeps runs alike if the other run takes what is left of it. -/
theorem Alike.takes (alike : Alike project run other) (retention : Retention)
    (left : run.cache.part? project step = some part) :
    Alike project (run.step retention step).1 (other.step retention part).1 where
  sound := alike.sound.act retention step
  soundOther := alike.soundOther.act retention part
  lane := by
    refine (alike.sound.lane_act retention step project).trans ?_
    refine Eq.trans ?_ (alike.soundOther.lane_act retention part project).symm
    rw [act_of_part? retention left, alike.lane]
  history := by
    rw [historyOf_step, historyOf_step, alike.event?_eq retention left, alike.history]

/-- A step of which nothing is left keeps runs alike. -/
theorem Alike.skips (alike : Alike project run other) (retention : Retention)
    (left : run.cache.part? project step = none) :
    Alike project (run.step retention step).1 other where
  sound := alike.sound.act retention step
  soundOther := alike.soundOther
  lane := by
    refine (alike.sound.lane_act retention step project).trans ?_
    rw [act_of_part?_eq_none retention left, alike.lane]
  history := by
    rw [historyOf_step, alike.event?_eq_none retention left]
    exact alike.history

theorem sight_of_asks (asks : step.asks project = true) :
    (run.step retention step).2 = .resident (run.cache.resident? project) := by
  cases step with
  | get asked =>
    obtain rfl := of_decide_eq_true asks
    rfl
  | call | poll | cancel => cases asks

/-- A step tells the same of a project as what is left of it. -/
theorem Alike.told?_eq (alike : Alike project run other)
    (left : run.cache.part? project step = some part) :
    run.told? retention project step = other.told? retention project part := by
  have same := alike.event?_eq retention left
  have polls := congrArg Option.isSome same
  rw [Option.isSome_filter, Option.isSome_filter] at polls
  have loads := (alike.takes retention left).loadsFor_eq
  unfold told?
  rw [← polls, asks_of_part? left, subject?_of_part? left, loads]
  refine if_ctx_congr Iff.rfl (fun concerns => ?_) fun _ => rfl
  have sight : (run.step retention step).2 = (other.step retention part).2 := by
    rcases (Bool.or_eq_true _ _).mp concerns with polled | asks
    · obtain ⟨event, happens, own⟩ := (Option.any_eq_true _ _).mp polled
      obtain rfl := of_decide_eq_true own
      have kept : (run.event? retention step).filter (fun twin => twin.project = event.project) =
          some event := Option.filter_eq_some_iff.mpr ⟨happens, own⟩
      rw [same] at kept
      rw [sight_of_event happens, sight_of_event (Option.filter_eq_some_iff.mp kept).1,
        ← sightOf_historyOf, alike.history, sightOf_historyOf]
    · rw [sight_of_asks asks, sight_of_asks ((asks_of_part? left).trans asks), alike.resident?_eq]
  rw [sight]

/-- A step of which nothing is left tells nothing of a project. -/
theorem Alike.told?_eq_none (alike : Alike project run other)
    (left : run.cache.part? project step = none) : run.told? retention project step = none := by
  have polls := congrArg Option.isSome (alike.event?_eq_none retention left)
  rw [Option.isSome_filter] at polls
  unfold told?
  rw [polls, asks_of_part?_eq_none left]
  rfl

/-- Runs stay alike if the other run takes what is left of the steps, and so the same is told. -/
theorem Alike.steps (alike : Alike project run other) (steps : List Step) :
    Alike project (run.steps retention steps)
        (other.steps retention (run.stepsFor retention project steps)) ∧
      run.toldBy retention project steps =
        other.toldBy retention project (run.stepsFor retention project steps) := by
  induction steps generalizing run other with
  | nil => exact ⟨alike, rfl⟩
  | cons step later ih =>
    -- The other run takes what is left of the first step, or stays where it is.
    unfold stepsFor
    cases left : run.cache.part? project step with
    | none =>
      obtain ⟨after, told⟩ := ih (alike.skips retention left)
      refine ⟨after, ?_⟩
      rw [toldBy, alike.told?_eq_none left]
      exact told
    | some part =>
      obtain ⟨after, told⟩ := ih (alike.takes retention left)
      refine ⟨after, ?_⟩
      rw [toldBy, alike.told?_eq left, told]
      rfl

/-! ## What is left out -/

theorem cancel_of_missing {cache : Cache} {id : CallId}
    (missing : ∀ call ∈ cache.calls, call.id ≠ id) : cache.cancel id = (cache, false) := by
  have absent : cache.call? id = none := List.find?_eq_none.mpr (by simpa using missing)
  rw [cancel, absent]

/-- The arrival of a call is the drop of the call whose name it takes, and its own arrival. -/
theorem steps_spelled (run : Run) (retention : Retention) (step : Step) :
    run.steps retention step.spelled = (run.step retention step).1 := by
  cases step with
  | call id asked load =>
    have acted : (run.cache.cancel id).1.act retention (.call id asked load) =
        run.cache.act retention (.call id asked load) := by
      dsimp only [act]
      rw [cancel_of_missing (missing_cancel run.cache id)]
    show (Run.step retention { run with cache := (run.cache.cancel id).1 } _).1 = _
    unfold Run.step
    dsimp only
    rw [acted]
    rfl
  | poll | cancel | get => rfl

theorem steps_flatMap_spelled (run : Run) (retention : Retention) (steps : List Step) :
    run.steps retention (steps.flatMap Step.spelled) = run.steps retention steps := by
  induction steps generalizing run with
  | nil => rfl
  | cons step later ih =>
    rw [List.flatMap_cons, steps_append, steps_spelled, ih]
    rfl

theorem sublist_stepsFor (run : Run) (retention : Retention) (project : String)
    (steps : List Step) :
    (run.stepsFor retention project steps).Sublist (steps.flatMap Step.spelled) := by
  induction steps generalizing run with
  | nil => exact .slnil
  | cons step later ih => exact (sublist_part? run.cache project step).append (ih _)

theorem own_of_mem_stepsFor {steps : List Step}
    (member : part ∈ run.stepsFor retention project steps) :
    (∀ id other load, part = .call id other load → other = project) ∧
      ∀ other, part = .get other → other = project := by
  induction steps generalizing run with
  | nil => cases member
  | cons step later ih =>
    rcases List.mem_append.mp member with first | further
    · exact own_of_part? (Option.mem_toList.mp first)
    · exact ih further

/-- In every run the calls for a project go on as if there were no others. -/
theorem isolated_of_start (retention : Retention) (project : String) (steps : List Step) :
    Isolated retention project steps (start.stepsFor retention project steps) where
  fewer := sublist_stepsFor start retention project steps
  spelled := steps_flatMap_spelled start retention steps
  own := fun _ => own_of_mem_stepsFor
  told := ((alike_start project).steps steps).2
  calls := ((alike_start project).steps steps).1.inquiriesFor_eq
  loads := ((alike_start project).steps steps).1.loadsFor_eq
  resident := ((alike_start project).steps steps).1.resident?_eq

/-- A call whose name is taken for another project is dropped, and nothing else of that project is
noticed. -/
theorem isolated_taken_name :
    start.toldBy .dropIdle "App" [.call "a" "App" ⟨.ok .null, 1⟩,
      .call "b" "Shop" ⟨.ok .null, 1⟩, .poll "b", .call "a" "Shop" ⟨.ok .null, 1⟩, .get "App"] =
    start.toldBy .dropIdle "App" [.call "a" "App" ⟨.ok .null, 1⟩, .cancel "a", .get "App"] :=
  (isolated_of_start .dropIdle "App" [.call "a" "App" ⟨.ok .null, 1⟩,
    .call "b" "Shop" ⟨.ok .null, 1⟩, .poll "b", .call "a" "Shop" ⟨.ok .null, 1⟩, .get "App"]).told

end Run

end CallAtlas.Cache
