import CallAtlas.Proofs.Cache.Reachable

/-!
# Single flight

At most one loader runs for a project, none runs for a project whose graph is resident, and the
first graph of a project is the only one that is ever returned for it.
-/

namespace CallAtlas.Cache

namespace Lane

/-- What a poll may do to the graph of a ledger and tell of it. -/
structure Coalesces (before after : Ledger) (progress : Progress) : Prop where
  /-- A graph that is there stays. -/
  kept : ∀ loaded, before.graph = some loaded → after.graph = some loaded
  /-- No loader is used if there is a graph. -/
  idle : progress.loader ≠ .unused → before.graph = none
  /-- A call that is done returns the graph that is there. -/
  same : ∀ loaded, before.graph = some loaded →
    ∀ result, progress.result? = some result → result = .ok loaded
  /-- A graph that is returned is there. -/
  resident : ∀ loaded, progress.result? = some (.ok loaded) → after.graph = some loaded

variable {retention : Retention} {lane : Lane} {ledger : Ledger} {first : Inquiry}
  {behind : List Inquiry}

theorem coalesces_pending (ledger : Ledger) : Coalesces ledger ledger ⟨.pending, .unused⟩ where
  kept := fun _ there => there
  idle := fun used => absurd rfl used
  same := nofun
  resident := nofun

theorem coalesces_ok {loaded : Loaded} (there : ledger.graph = some loaded) :
    Coalesces ledger ledger ⟨.done (.ok loaded), .unused⟩ where
  kept := fun _ there => there
  idle := fun used => absurd rfl used
  same := by
    intro other otherThere result returned
    obtain rfl := Option.some.inj returned
    rw [Option.some.inj (there.symm.trans otherThere)]
  resident := by
    intro other returned
    obtain rfl := Except.ok.inj (Option.some.inj returned)
    exact there

/-- Without a graph, only a graph that is returned has to be there afterwards. -/
theorem coalesces_bare (bare : ledger.graph = none) (after : Ledger) (progress : Progress)
    (resident : ∀ loaded, progress.result? = some (.ok loaded) → after.graph = some loaded) :
    Coalesces ledger after progress where
  kept := by simp [bare]
  idle := fun _ => bare
  same := by simp [bare]
  resident := resident

theorem Polled.coalesces {polled : Lane × Progress}
    (can : Polled retention ledger first behind polled) :
    Coalesces ledger polled.1.toLedger polled.2 := by
  cases can with
  | takes loaded there => exact coalesces_ok there
  | shares failed bare kept missed => exact coalesces_bare bare _ _ nofun
  | suspends left further use used bare current => exact coalesces_bare bare _ _ nofun
  | ends use used bare current =>
    apply coalesces_bare bare
    intro loaded returned
    have success : first.outcome = .ok loaded := Option.some.inj returned
    rw [success]
    simp [Lane.depart, Ledger.settle, bare]

theorem Orderly.coalesces_poll (orderly : lane.Orderly) (id : CallId) :
    Coalesces lane.toLedger (lane.poll retention id).1.toLedger (lane.poll retention id).2 := by
  rcases orderly.poll_cases retention id with waits | ⟨first, behind, -, -, can⟩
  · rw [waits]
    exact coalesces_pending lane.toLedger
  · exact can.coalesces

theorem Orderly.coalesces_arrive (orderly : lane.Orderly) (id : CallId) (load : Load) :
    Coalesces lane.toLedger (lane.arrive retention id load).1.toLedger
      (lane.arrive retention id load).2 := by
  unfold Lane.arrive
  split
  · rename_i loaded there
    exact coalesces_ok there
  · exact (orderly.enqueue id load).coalesces_poll id

theorem Orderly.coalesces_act (orderly : lane.Orderly) {project : String} {step : Step}
    {progress : Progress} (happens : (lane.act retention project step).2 = some progress) :
    Coalesces lane.toLedger (lane.act retention project step).1.toLedger progress := by
  have can := acted retention lane project step
  generalize lane.act retention project step = after at can happens ⊢
  cases can with
  | arrives id load =>
    obtain rfl := Option.some.inj happens
    exact (orderly.leave id).coalesces_arrive id load
  | polls id served =>
    obtain rfl := Option.some.inj happens
    exact orderly.coalesces_poll id
  | passes | misses | cancels | asks => cases happens

/-- A step that polls no call of a lane changes nothing but who waits. -/
theorem ledger_act_of_silent {project : String} {step : Step}
    (silent : (lane.act retention project step).2 = none) :
    (lane.act retention project step).1.toLedger = lane.toLedger := by
  have can := acted retention lane project step
  generalize lane.act retention project step = after at can silent ⊢
  cases can with
  | arrives | polls => cases silent
  | passes | misses | cancels | asks => rfl

/-- A graph that is there stays, whatever is done. -/
theorem Orderly.graph_act (orderly : lane.Orderly) {loaded : Loaded}
    (there : lane.graph = some loaded) (project : String) (step : Step) :
    (lane.act retention project step).1.graph = some loaded := by
  cases happens : (lane.act retention project step).2 with
  | none => exact (congrArg Ledger.graph (ledger_act_of_silent happens)).trans there
  | some progress => exact (orderly.coalesces_act happens).kept loaded there

end Lane

/-! ## Runs -/

/-- Only the first of the calls in flight for a project can have its loader running. -/
theorem Reachable.alone {cache : Cache} (reachable : cache.Reachable) {a b : Call}
    (memberA : a ∈ cache.calls) (memberB : b ∈ cache.calls) (same : a.project = b.project)
    (startedA : a.stage ≠ .waiting) (startedB : b.stage ≠ .waiting) : a = b := by
  have presentA : a ∈ cache.callsFor b.project := mem_callsFor.mpr ⟨memberA, same⟩
  have presentB : b ∈ cache.callsFor b.project := mem_callsFor.mpr ⟨memberB, rfl⟩
  have ahead := (reachable.orderly b.project).ahead
  cases line : cache.callsFor b.project with
  | nil =>
    rw [line] at presentA
    cases presentA
  | cons first behind =>
    have waits : ∀ call ∈ behind, call.stage = .waiting := by
      intro call member
      apply ahead call.toInquiry
      rw [lane, line]
      exact List.mem_map_of_mem member
    rw [line] at presentA presentB
    rcases List.mem_cons.mp presentA with rfl | behindA
    · rcases List.mem_cons.mp presentB with rfl | behindB
      · rfl
      · exact absurd (waits b behindB) startedB
    · exact absurd (waits a behindA) startedA

namespace Run

/-- The calls whose loader was started for a project. -/
def loadsFor (run : Run) (project : String) : List CallId :=
  (run.loads.filter fun load => load.2 = project).map Prod.fst

/-- A project whose graph is resident for good: it is what everybody gets, and no loader is
used. -/
structure Settled (retention : Retention) (run : Run) (project : String) (loaded : Loaded) :
    Prop where
  resident : run.cache.resident? project = some loaded
  /-- The graph is what those get who only ask for it. -/
  asked : (run.step retention (.get project)).2 = .resident (some loaded)
  /-- The graph is what every call that is done returns, and no call uses its loader. -/
  returned : ∀ step event, run.event? retention step = some event → event.project = project →
    event.progress.loader = .unused ∧
      ∀ result, event.progress.result? = some result → result = .ok loaded

/-- What holds of every run: loaders run alone and only without a graph, and the graph that one
call returned is the graph for ever, for which no loader is started again. -/
structure SingleFlight (retention : Retention) (run : Run) : Prop where
  /-- No two calls in flight for a project have their loaders running. -/
  alone : ∀ a ∈ run.cache.calls, ∀ b ∈ run.cache.calls, a.project = b.project →
    a.stage ≠ .waiting → b.stage ≠ .waiting → a = b
  /-- A loader is started or gets on only if no graph is resident. -/
  bare : ∀ step event, run.event? retention step = some event →
    event.progress.loader ≠ .unused → run.cache.resident? event.project = none
  /-- A graph that is resident stays, and no loader is started for it again. -/
  kept : ∀ project loaded, run.cache.resident? project = some loaded → ∀ later,
    (run.steps retention later).Settled retention project loaded ∧
      (run.steps retention later).loadsFor project = run.loadsFor project
  /-- A graph that a call returns is resident from then on. -/
  settled : ∀ step event loaded, run.event? retention step = some event →
    event.progress.result? = some (.ok loaded) → ∀ later,
      let after := (run.step retention step).1
      (after.steps retention later).Settled retention event.project loaded ∧
        (after.steps retention later).loadsFor event.project = after.loadsFor event.project

variable {run : Run} {retention : Retention}

theorem coalesces_event (reachable : run.cache.Reachable) {step : Step} {event : Event}
    (happens : run.event? retention step = some event) :
    Lane.Coalesces (run.cache.lane event.project).toLedger
      ((run.step retention step).1.cache.lane event.project).toLedger event.progress := by
  have coalesces := (reachable.orderly event.project).coalesces_act (reachable.act_of_event happens)
  rw [← reachable.sound.lane_act retention step event.project] at coalesces
  exact coalesces

theorem settled_of_resident (reachable : run.cache.Reachable) {project : String} {loaded : Loaded}
    (resident : run.cache.resident? project = some loaded) :
    run.Settled retention project loaded where
  resident := resident
  asked := congrArg Sight.resident resident
  returned := by
    rintro step event happens rfl
    have coalesces := coalesces_event reachable happens
    rw [resident?_eq_graph] at resident
    refine ⟨?_, coalesces.same loaded resident⟩
    by_contra used
    rw [coalesces.idle used] at resident
    cases resident

theorem resident?_step (reachable : run.cache.Reachable) {project : String} {loaded : Loaded}
    (resident : run.cache.resident? project = some loaded) (step : Step) :
    (run.step retention step).1.cache.resident? project = some loaded := by
  rw [resident?_eq_graph] at resident ⊢
  exact (congrArg (fun lane : Lane => lane.graph)
    (reachable.sound.lane_act retention step project)).trans
    ((reachable.orderly project).graph_act resident project step)

/-- No loader is started for a project whose graph is resident. -/
theorem loadsFor_step (reachable : run.cache.Reachable) {project : String} {loaded : Loaded}
    (resident : run.cache.resident? project = some loaded) (step : Step) :
    (run.step retention step).1.loadsFor project = run.loadsFor project := by
  cases happens : run.event? retention step with
  | none =>
    show (((run.event? retention step).map run.note).getD run).loadsFor project = _
    rw [happens]
    rfl
  | some event =>
    show (((run.event? retention step).map run.note).getD run).loadsFor project = _
    rw [happens]
    show (run.note event).loadsFor project = _
    unfold note loadsFor
    dsimp only
    split
    · rename_i started
      by_cases own : event.project = project
      · have idle := ((settled_of_resident reachable resident).returned step event happens own).1
        rw [idle] at started
        cases started
      · simp [List.filter_append, own]
    · rfl

theorem settled_steps (reachable : run.cache.Reachable) {project : String} {loaded : Loaded}
    (resident : run.cache.resident? project = some loaded) (later : List Step) :
    (run.steps retention later).Settled retention project loaded ∧
      (run.steps retention later).loadsFor project = run.loadsFor project := by
  induction later generalizing run with
  | nil => exact ⟨settled_of_resident reachable resident, rfl⟩
  | cons step later ih =>
    obtain ⟨settled, loads⟩ :=
      ih (reachable_step reachable step) (resident?_step reachable resident step)
    exact ⟨settled, loads.trans (loadsFor_step reachable resident step)⟩

/-- Every run loads a graph once, with one loader at a time, and everybody gets that graph. -/
theorem singleFlight_of_start (retention : Retention) (steps : List Step) :
    (start.steps retention steps).SingleFlight retention where
  alone := fun _ memberA _ memberB same startedA startedB =>
    (reachable_of_start retention steps).alone memberA memberB same startedA startedB
  bare := by
    intro step event happens used
    rw [resident?_eq_graph]
    exact (coalesces_event (reachable_of_start retention steps) happens).idle used
  kept := fun _ _ resident later =>
    settled_steps (reachable_of_start retention steps) resident later
  settled := by
    intro step event loaded happens returned later
    have reachable := reachable_of_start retention steps
    refine settled_steps (reachable_step reachable step) ?_ later
    rw [resident?_eq_graph]
    exact (coalesces_event reachable happens).resident loaded returned

/-- Of two calls whose loaders would succeed one loads, and both get its graph. -/
theorem settled_after_two_calls :
    (start.steps .dropIdle [.call "a" "App" ⟨.ok (.object [("call_graph", .object [])]), 1⟩,
      .call "b" "App" ⟨.ok .null, 0⟩, .poll "a", .poll "b"]).Settled .dropIdle "App"
        ⟨"a", ⟨[]⟩⟩ :=
  ((singleFlight_of_start .dropIdle
    [.call "a" "App" ⟨.ok (.object [("call_graph", .object [])]), 1⟩,
      .call "b" "App" ⟨.ok .null, 0⟩]).settled (.poll "a") _ ⟨"a", ⟨[]⟩⟩ rfl rfl [.poll "b"]).1

end Run

end CallAtlas.Cache
