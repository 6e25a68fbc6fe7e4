import CallAtlas.Proofs.Cache.FirstEnd

/-!
# No lost hand-over

The calls in flight for a project stand in the order of their arrival, and the first of them owns
the lock of the project. A poll of the first call uses up one of the polls that its loader is
pending, or ends the call, so everybody is done after finitely many rounds of polls.
-/

namespace CallAtlas.Cache

/-- Whether a step is the arrival of a call. -/
def Step.begins : Step → CallId → Bool
  | .call other _ _, id => other = id
  | _, _ => false

/-- How many steps ago the latest call of a name arrived. -/
def age (steps : List Step) (id : CallId) : Nat :=
  steps.reverse.findIdx fun step => step.begins id

theorem age_concat (steps : List Step) (step : Step) (id : CallId) :
    age (steps ++ [step]) id = if step.begins id then 0 else age steps id + 1 := by
  rw [age, List.reverse_append, List.reverse_singleton, List.singleton_append, List.findIdx_cons]
  cases step.begins id <;> rfl

namespace Lane

/-- The names of the calls in flight. -/
def names (lane : Lane) : List CallId :=
  lane.queue.map Inquiry.id

/-- The calls in flight stand in the order of their arrival. -/
def Aged (lane : Lane) (steps : List Step) : Prop :=
  lane.names.Pairwise fun earlier later => age steps later < age steps earlier

variable {retention : Retention} {lane : Lane} {ledger : Ledger} {first : Inquiry}
  {behind : List Inquiry}

theorem queue_depart (lane : Lane) (result : Except Failure Loaded) :
    (lane.depart retention result).queue = lane.queue := by
  cases result with
  | ok loaded => rfl
  | error failure =>
    unfold depart
    dsimp only
    split
    · rename_i idle
      exact idle.2.2.symm
    · rfl

theorem names_leave (lane : Lane) (id : CallId) :
    (lane.leave id).names = lane.names.filter fun other => other ≠ id := by
  simp only [names, leave, List.filter_map]
  rfl

theorem names_enqueue (lane : Lane) (id : CallId) (load : Load) :
    (lane.enqueue id load).names = lane.names ++ [id] := by
  simp [names, enqueue]

/-- A poll ends the first call or keeps it. -/
theorem Polled.names {polled : Lane × Progress}
    (can : Polled retention ledger first behind polled) :
    polled.1.names.Sublist (Lane.mk ledger (first :: behind)).names := by
  have fewer : (behind.map Inquiry.id).Sublist ((first :: behind).map Inquiry.id) :=
    (List.sublist_cons_self first behind).map _
  cases can with
  | takes loaded resident => exact fewer
  | shares failed bare kept missed =>
    unfold Lane.names
    rw [queue_depart]
    exact fewer
  | suspends left further use used bare current => exact .refl _
  | ends use used bare current =>
    unfold Lane.names
    rw [queue_depart]
    exact fewer

theorem Orderly.names_poll (orderly : lane.Orderly) (retention : Retention) (id : CallId) :
    (lane.poll retention id).1.names.Sublist lane.names := by
  rcases orderly.poll_cases retention id with waits | ⟨first, behind, line, -, can⟩
  · rw [waits]
  · have fewer := can.names
    rwa [← line] at fewer

theorem Orderly.names_arrive (orderly : lane.Orderly) (id : CallId) (load : Load) :
    (lane.arrive retention id load).1.names.Sublist (lane.names ++ [id]) := by
  unfold Lane.arrive
  split
  · exact List.sublist_append_left _ _
  · rw [← names_enqueue lane id load]
    exact (orderly.enqueue id load).names_poll retention id

/-- A call that arrives is younger than all others. -/
theorem Aged.call {steps : List Step} (aged : lane.Aged steps) (id : CallId) (project : String)
    (load : Load) :
    ((lane.leave id).names ++ [id]).Pairwise fun earlier later =>
      age (steps ++ [.call id project load]) later <
        age (steps ++ [.call id project load]) earlier := by
  have older : ∀ other ∈ (lane.leave id).names,
      age (steps ++ [.call id project load]) other = age steps other + 1 := by
    intro other member
    rw [names_leave] at member
    have different : id ≠ other := by
      rintro rfl
      simp at member
    rw [age_concat, Step.begins, if_neg (by simpa using different)]
  have newest : age (steps ++ [.call id project load]) id = 0 := by
    rw [age_concat, Step.begins, if_pos (by simp)]
  refine List.pairwise_append.mpr ⟨?_, List.pairwise_singleton _ _, ?_⟩
  · refine List.Pairwise.imp_of_mem ?_ (aged.sublist (names_leave lane id ▸ List.filter_sublist))
    intro earlier later memberEarlier memberLater before
    rw [older earlier memberEarlier, older later memberLater]
    omega
  · intro earlier member later same
    rw [List.mem_singleton.mp same, older earlier member, newest]
    omega

/-- Nobody overtakes: a step leaves the calls in flight in the order of their arrival. -/
theorem Aged.act {steps : List Step} (aged : lane.Aged steps) (orderly : lane.Orderly)
    (project : String) (step : Step) :
    (lane.act retention project step).1.Aged (steps ++ [step]) := by
  have later {fewer : Lane} (sublist : fewer.names.Sublist lane.names)
      (begins : ∀ id, step.begins id = false) : fewer.Aged (steps ++ [step]) := by
    unfold Aged
    simp only [age_concat, begins]
    exact (aged.sublist sublist).imp Nat.succ_lt_succ
  have can := acted retention lane project step
  generalize lane.act retention project step = after at can ⊢
  cases can with
  | arrives id load =>
    exact (aged.call id project load).sublist ((orderly.leave id).names_arrive id load)
  | passes id other load elsewhere =>
    exact (aged.call id other load).sublist (List.sublist_append_left _ _)
  | polls id served => exact later (orderly.names_poll retention id) fun _ => rfl
  | misses id elsewhere => exact later (.refl _) fun _ => rfl
  | cancels id => exact later (names_leave lane id ▸ List.filter_sublist) fun _ => rfl
  | asks other => exact later (.refl _) fun _ => rfl

/-! ## Rounds of polls -/

/-- How often the loaders of calls will still be pending. -/
def pendingPollsOf : List Inquiry → Nat
  | [] => 0
  | inquiry :: behind => pendingPolls inquiry + pendingPollsOf behind

/-- How many calls are in flight, and how often their loaders will still be pending. -/
def budget (lane : Lane) : Nat :=
  lane.queue.length + pendingPollsOf lane.queue

theorem queue_of_budget (spent : lane.budget = 0) : lane.queue = [] :=
  List.eq_nil_of_length_eq_zero (by unfold budget at spent; omega)

/-- A poll of the first call ends it, or its loader will be pending once less. -/
theorem Polled.budget {polled : Lane × Progress}
    (can : Polled retention ledger first behind polled) :
    polled.1.budget < (Lane.mk ledger (first :: behind)).budget := by
  cases can with
  | takes loaded resident => simp [Lane.budget, pendingPollsOf]; omega
  | shares failed bare kept missed => simp [Lane.budget, pendingPollsOf, queue_depart]; omega
  | suspends left further use used bare current =>
    have once : pendingPolls { first with stage := .loading left } = left := rfl
    simp [Lane.budget, pendingPollsOf, once, further]
  | ends use used bare current => simp [Lane.budget, pendingPollsOf, queue_depart]; omega

theorem Orderly.budget_poll_le (orderly : lane.Orderly) (retention : Retention) (id : CallId) :
    (lane.poll retention id).1.budget ≤ lane.budget := by
  rcases orderly.poll_cases retention id with waits | ⟨first, behind, line, -, can⟩
  · exact Nat.le_of_eq (by rw [waits])
  · have less := can.budget
    rw [← line] at less
    exact Nat.le_of_lt less

theorem Orderly.budget_act_poll_le (orderly : lane.Orderly) (project : String) (id : CallId) :
    (lane.act retention project (.poll id)).1.budget ≤ lane.budget := by
  have can := acted retention lane project (.poll id)
  generalize lane.act retention project (.poll id) = after at can ⊢
  cases can with
  | polls id served => exact orderly.budget_poll_le retention id
  | misses elsewhere => exact Nat.le_refl _

theorem Orderly.budget_acts_poll_le (orderly : lane.Orderly) (project : String)
    (ids : List CallId) :
    (lane.acts retention project (ids.map Step.poll)).budget ≤ lane.budget := by
  induction ids generalizing lane with
  | nil => exact Nat.le_refl _
  | cons id later ih =>
    exact Nat.le_trans (ih (orderly.act project (.poll id))) (orderly.budget_act_poll_le project id)

/-- A round of polls in which the first call has its turn: until then nothing gets on, and then the
first call does. -/
theorem Orderly.budget_round (orderly : lane.Orderly) (project : String) {ids : List CallId}
    (line : lane.queue = first :: behind) (turn : first.id ∈ ids) :
    (lane.acts retention project (ids.map Step.poll)).budget < lane.budget := by
  induction ids with
  | nil => cases turn
  | cons id later ih =>
    by_cases same : first.id = id
    · subst same
      have whole : lane = ⟨lane.toLedger, first :: behind⟩ := by rw [← line]
      have served : lane.serves first.id = true := by simp [serves, line]
      have less : (lane.act retention project (.poll first.id)).1.budget < lane.budget := by
        rw [act_poll_own project served]
        have can := (whole ▸ orderly).polled retention
        have less := can.budget
        rwa [← poll_first, ← whole] at less
      exact Nat.lt_of_le_of_lt ((orderly.act project (.poll first.id)).budget_acts_poll_le project
        later) less
    · have still : (lane.act retention project (.poll id)).1 = lane := by
        have can := acted retention lane project (.poll id)
        generalize lane.act retention project (.poll id) = after at can ⊢
        cases can with
        | polls served => exact congrArg Prod.fst (poll_other line same)
        | misses elsewhere => rfl
      have further : first.id ∈ later := by
        rcases List.mem_cons.mp turn with here | further
        · exact absurd here same
        · exact further
      show (Lane.acts retention (lane.act retention project (.poll id)).1 project _).budget < _
      rw [still]
      exact ih further

end Lane

/-! ## Runs -/

/-- How many calls for a project are in flight, and how often their loaders will still be
pending. -/
def remaining (cache : Cache) (project : String) : Nat :=
  (cache.callsFor project).length +
    Lane.pendingPollsOf ((cache.callsFor project).map Call.toInquiry)

theorem remaining_eq_budget (cache : Cache) (project : String) :
    cache.remaining project = (cache.lane project).budget := by
  rw [remaining, Lane.budget, lane, List.length_map]

/-- A call owns the lock of its project alone, and arrived before all others in flight for it. -/
structure OwnsAlone (cache : Cache) (steps : List Step) (owner : Call) : Prop where
  inFlight : owner ∈ cache.calls
  /-- The call holds the slot that its project has now. -/
  slot : cache.slot? owner.project = some owner.slot
  owns : cache.owns owner = true
  alone : ∀ other ∈ cache.calls, other.project = owner.project → cache.owns other = true →
    other = owner
  earliest : ∀ other ∈ cache.calls, other.project = owner.project → other ≠ owner →
    age steps other.id < age steps owner.id

/-- The first call in a line owns the lock. -/
theorem Reachable.ownsAlone {cache : Cache} (reachable : cache.Reachable) {steps : List Step}
    {owner : Call} {behind : List Call} (aged : (cache.lane owner.project).Aged steps)
    (line : cache.callsFor owner.project = owner :: behind) : cache.OwnsAlone steps owner where
  inFlight := (mem_of_line line).1
  slot := reachable.sound.current owner (mem_of_line line).1
  owns := (reachable.sound.owns_iff (mem_of_line line).1).mpr ⟨behind, line⟩
  alone := by
    intro other member same owns
    obtain ⟨others, front⟩ := (reachable.sound.owns_iff member).mp owns
    rw [same, line] at front
    exact (List.cons.inj front).1.symm
  earliest := by
    intro other member same different
    have present : other ∈ cache.callsFor owner.project := mem_callsFor.mpr ⟨member, same⟩
    rw [line] at present
    have later : other ∈ behind := (List.mem_cons.mp present).resolve_left different
    unfold Lane.Aged Lane.names lane at aged
    rw [line, List.map_map] at aged
    exact (List.pairwise_cons.mp aged).1 other.id (List.mem_map_of_mem later)

namespace Run

variable {run : Run} {retention : Retention}

/-- Every call that is in flight at the beginning of a round is polled in the round. -/
def PolledInRounds (retention : Retention) (run : Run) : List (List CallId) → Prop
  | [] => True
  | round :: later =>
    (∀ call ∈ run.cache.calls, call.id ∈ round) ∧
      (run.steps retention (round.map Step.poll)).PolledInRounds retention later

/-- What holds of every run: the lock of a project with calls in flight is owned by the earliest
of them, and rounds of polls get all of them done. -/
structure HandsOver (retention : Retention) (run : Run) (steps : List Step) : Prop where
  owned : ∀ call ∈ run.cache.calls,
    ∃ owner, owner.project = call.project ∧ run.cache.OwnsAlone steps owner
  /-- A call is done after as many rounds as there are calls in flight for its project and polls
  that their loaders will still be pending. -/
  finished : ∀ rounds, run.PolledInRounds retention rounds → ∀ call ∈ run.cache.calls,
    run.cache.remaining call.project ≤ rounds.length →
      ∃ result, run.resultOf? retention call.id (rounds.flatten.map Step.poll) = some result

theorem aged_steps (reachable : run.cache.Reachable) {project : String} {before : List Step}
    (aged : (run.cache.lane project).Aged before) (later : List Step) :
    ((run.steps retention later).cache.lane project).Aged (before ++ later) := by
  induction later generalizing run before with
  | nil => rwa [List.append_nil]
  | cons step later ih =>
    rw [steps_cons, List.append_cons]
    apply ih (reachable_step reachable step)
    rw [lane_step reachable]
    exact aged.act (reachable.orderly project) project step

theorem aged_of_start (retention : Retention) (steps : List Step) (project : String) :
    ((start.steps retention steps).cache.lane project).Aged steps := by
  have empty : (start.cache.lane project).Aged [] := List.Pairwise.nil
  exact aged_steps reachable_start empty steps

theorem owned_of_start (retention : Retention) (steps : List Step) {call : Call}
    (member : call ∈ (start.steps retention steps).cache.calls) :
    ∃ owner, owner.project = call.project ∧
      (start.steps retention steps).cache.OwnsAlone steps owner := by
  have present := mem_callsFor.mpr ⟨member, rfl⟩
  cases line : (start.steps retention steps).cache.callsFor call.project with
  | nil =>
    rw [line] at present
    cases present
  | cons owner behind =>
    have same := (mem_of_line line).2
    rw [← same] at line
    exact ⟨owner, same, (reachable_of_start retention steps).ownsAlone
      (aged_of_start retention steps owner.project) line⟩

/-- Rounds of polls empty a lane. -/
theorem queue_of_rounds (reachable : run.cache.Reachable) {rounds : List (List CallId)}
    (polled : run.PolledInRounds retention rounds) {project : String}
    (enough : (run.cache.lane project).budget ≤ rounds.length) :
    ((run.steps retention (rounds.flatten.map Step.poll)).cache.lane project).queue = [] := by
  induction rounds generalizing run with
  | nil => exact Lane.queue_of_budget (Nat.le_zero.mp enough)
  | cons round later ih =>
    obtain ⟨turns, polled⟩ := polled
    have orderly := reachable.orderly project
    rw [List.flatten_cons, List.map_append, steps_append]
    apply ih (reachable_steps reachable _) polled
    rw [lane_steps reachable]
    cases line : (run.cache.lane project).queue with
    | nil =>
      have spent : (run.cache.lane project).budget = 0 := by
        simp [Lane.budget, Lane.pendingPollsOf, line]
      exact Nat.le_trans (orderly.budget_acts_poll_le project round) (by omega)
    | cons first behind =>
      have turn : first.id ∈ round := by
        have front : first ∈ (run.cache.lane project).queue := by simp [line]
        obtain ⟨call, member, rfl⟩ := List.mem_map.mp front
        exact turns call (mem_callsFor.mp member).1
      have less : ((run.cache.lane project).acts retention project (round.map Step.poll)).budget <
          (run.cache.lane project).budget := orderly.budget_round project line turn
      simp only [List.length_cons] at enough
      omega

/-- A call in flight is done within rounds of polls. -/
theorem resultOf?_of_rounds (reachable : run.cache.Reachable) {rounds : List (List CallId)}
    (polled : run.PolledInRounds retention rounds) {call : Call} (member : call ∈ run.cache.calls)
    (enough : run.cache.remaining call.project ≤ rounds.length) :
    ∃ result, run.resultOf? retention call.id (rounds.flatten.map Step.poll) = some result := by
  -- A call that is never done would still stand in the lane that the rounds have emptied.
  rw [remaining_eq_budget] at enough
  obtain ⟨ended, awaits⟩ := (reachable.orderly call.project).awaits (mem_lane member)
  by_contra unfinished
  have kept : ∀ step ∈ rounds.flatten.map Step.poll, step.drops call.id = false := by
    intro step member
    obtain ⟨id, -, rfl⟩ := List.mem_map.mp member
    rfl
  have still := awaits_steps reachable retention awaits kept
    (Option.eq_none_iff_forall_ne_some.mpr fun result same => unfinished ⟨result, same⟩)
  obtain ⟨inquiry, present, -⟩ := still.inFlight
  rw [queue_of_rounds reachable polled enough] at present
  cases present

/-- In every run the lock is handed over from each call to the next. -/
theorem handsOver_of_start (retention : Retention) (steps : List Step) :
    (start.steps retention steps).HandsOver retention steps where
  owned := fun _ member => owned_of_start retention steps member
  finished := fun _ polled _ member enough =>
    resultOf?_of_rounds (reachable_of_start retention steps) polled member enough

/-- Two calls, of which the first loader is pending once, are done after three rounds. -/
theorem finished_after_three_rounds :
    ∃ result, (start.steps .dropIdle [.call "a" "App" ⟨.error (.json "EOF"), 1⟩,
      .call "b" "App" ⟨.error (.json "EOF"), 0⟩]).resultOf? .dropIdle "b"
        ([["b", "a"], ["a", "b"], ["b"]].flatten.map Step.poll) = some result :=
  (handsOver_of_start .dropIdle [.call "a" "App" ⟨.error (.json "EOF"), 1⟩,
    .call "b" "App" ⟨.error (.json "EOF"), 0⟩]).finished [["b", "a"], ["a", "b"], ["b"]]
      ⟨by decide, by decide, by decide, trivial⟩
      ⟨⟨"b", ⟨.error (.json "EOF"), 0⟩, 0, .waiting⟩, "App", 0⟩
      (List.mem_cons_of_mem _ List.mem_cons_self) (by decide)

end Run

end CallAtlas.Cache
