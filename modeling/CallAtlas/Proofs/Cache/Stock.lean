import CallAtlas.Artifacts
import CallAtlas.Proofs.Cache.FirstEnd
import CallAtlas.Proofs.Cache.Transparent
import CallAtlas.Proofs.Graph.Artifact

/-!
# Caches stocked from one store

If every load draws on a store whose artifacts stay as they are, whatever a cache holds comes from
that store: graphs, failures, and what the loaders of calls in flight will yield. So every call
returns what the store gives for its project, or a copy of the failure, whoever did the load.
-/

namespace CallAtlas

/-- What loaders may yield for each project: several things, if artifacts change, but always
something. -/
structure Supply where
  yields : String → Except Failure Json → Prop
  total : ∀ project, ∃ outcome, yields project outcome

namespace Supply

/-- The supply of one loader. -/
def ofLoader (load : Loader) : Supply where
  yields := fun project outcome => outcome = load project
  total := fun project => ⟨load project, rfl⟩

end Supply

/-- The graph of a project's artifact. -/
def Loader.graph (load : Loader) (project : String) : Except Failure CallGraph :=
  (load project).bind CallGraph.ofArtifact

namespace Cache

/-- A step starts no loader that yields what is not in supply. -/
def Step.DrawsFrom (supply : Supply) : Step → Prop
  | .call _ project load => supply.yields project load.outcome
  | .poll _ | .cancel _ | .get _ => True

/-- A result is what a graph was loaded with, or its copy for those who shared the load. -/
def IsCopyOf (graph : Except Failure CallGraph) (result : Except Failure Loaded) : Prop :=
  result.map Loaded.graph = graph ∨ result.map Loaded.graph = graph.mapError Failure.shared

namespace Lane

/-- All that a lane holds comes from one artifact. -/
structure DrawnFrom (graph : Except Failure CallGraph) (lane : Lane) : Prop where
  resident : ∀ loaded, lane.graph = some loaded → graph = .ok loaded.graph
  failed : ∀ latest, lane.lastFailure = some latest →
    graph.mapError Failure.shared = .error latest.failure
  loads : ∀ inquiry ∈ lane.queue, inquiry.outcome.map Loaded.graph = graph

variable {retention : Retention} {graph : Except Failure CallGraph} {lane : Lane}
  {ledger : Ledger} {first : Inquiry} {behind : List Inquiry}

theorem drawnFrom_start (graph : Except Failure CallGraph) : ({} : Lane).DrawnFrom graph where
  resident := nofun
  failed := nofun
  loads := by simp

theorem DrawnFrom.sublist (drawn : lane.DrawnFrom graph) {queue : List Inquiry}
    (fewer : queue.Sublist lane.queue) : (Lane.mk lane.toLedger queue).DrawnFrom graph where
  resident := drawn.resident
  failed := drawn.failed
  loads := fun inquiry member => drawn.loads inquiry (fewer.subset member)

theorem DrawnFrom.leave (drawn : lane.DrawnFrom graph) (id : CallId) :
    (lane.leave id).DrawnFrom graph :=
  drawn.sublist List.filter_sublist

theorem DrawnFrom.depart (drawn : lane.DrawnFrom graph) (retention : Retention)
    (result : Except Failure Loaded) : (Lane.depart retention lane result).DrawnFrom graph := by
  cases result with
  | ok loaded => exact drawn
  | error failure =>
    unfold Lane.depart
    dsimp only
    split
    · exact drawnFrom_start graph
    · exact drawn

theorem DrawnFrom.enqueue (drawn : lane.DrawnFrom graph) (id : CallId) {load : Load}
    (same : load.outcome.bind CallGraph.ofArtifact = graph) :
    (lane.enqueue id load).DrawnFrom graph where
  resident := drawn.resident
  failed := drawn.failed
  loads := by
    intro inquiry member
    rcases List.mem_append.mp member with member | member
    · exact drawn.loads inquiry member
    · obtain rfl := List.mem_singleton.mp member
      exact (graph_outcome _).trans same

/-- The end of a load writes down what the artifact comes to. -/
theorem DrawnFrom.settle (drawn : (Lane.mk ledger (first :: behind)).DrawnFrom graph) :
    (Lane.mk (ledger.settle first.outcome) behind).DrawnFrom graph := by
  have own := drawn.loads first List.mem_cons_self
  have others : ∀ inquiry ∈ behind, inquiry.outcome.map Loaded.graph = graph :=
    fun inquiry member => drawn.loads inquiry (List.mem_cons_of_mem _ member)
  cases brought : first.outcome with
  | ok loaded =>
    rw [brought] at own
    refine ⟨?_, nofun, others⟩
    intro kept found
    cases resident : ledger.graph with
    | some there =>
      rw [Ledger.settle, resident] at found
      obtain rfl := Option.some.inj found
      exact drawn.resident there resident
    | none =>
      rw [Ledger.settle, resident] at found
      obtain rfl := Option.some.inj found
      exact own.symm
  | error failure =>
    rw [brought] at own
    refine ⟨drawn.resident, ?_, others⟩
    intro latest found
    obtain rfl := Option.some.inj found
    rw [← own]
    rfl

/-- A poll of the first call leaves a lane that comes from the artifact, and so does what the call
returns. -/
theorem DrawnFrom.polled (drawn : (Lane.mk ledger (first :: behind)).DrawnFrom graph)
    {polled : Lane × Progress} (can : Polled retention ledger first behind polled) :
    polled.1.DrawnFrom graph ∧
      ∀ result, polled.2.result? = some result → IsCopyOf graph result := by
  have fewer : (Lane.mk ledger behind).DrawnFrom graph :=
    drawn.sublist (List.sublist_cons_self first behind)
  cases can with
  | takes loaded resident =>
    refine ⟨fewer, ?_⟩
    rintro _ ⟨⟩
    exact .inl (drawn.resident loaded resident).symm
  | shares failed bare kept missed =>
    refine ⟨fewer.depart retention (.error failed.failure.shared), ?_⟩
    rintro _ ⟨⟩
    right
    have copy := drawn.failed failed kept
    cases graph with
    | ok graph => cases copy
    | error failure =>
      have same : failure.shared = failed.failure := Except.error.inj copy
      show Except.error failed.failure.shared = Except.error failure.shared
      rw [← same, failure.shared_shared]
  | suspends left further use used bare current =>
    refine ⟨⟨drawn.resident, drawn.failed, ?_⟩, nofun⟩
    intro inquiry member
    rcases List.mem_cons.mp member with rfl | member
    · exact drawn.loads first List.mem_cons_self
    · exact drawn.loads inquiry (List.mem_cons_of_mem _ member)
  | ends use used bare current =>
    refine ⟨drawn.settle.depart retention _, ?_⟩
    rintro _ ⟨⟩
    exact .inl (drawn.loads first List.mem_cons_self)

theorem DrawnFrom.poll (drawn : lane.DrawnFrom graph) (orderly : lane.Orderly)
    (retention : Retention) (id : CallId) :
    (lane.poll retention id).1.DrawnFrom graph ∧
      ∀ result, (lane.poll retention id).2.result? = some result → IsCopyOf graph result := by
  rcases orderly.poll_cases retention id with waits | ⟨first, behind, line, -, can⟩
  · rw [waits]
    exact ⟨drawn, nofun⟩
  · rw [line] at drawn
    exact drawn.polled can

theorem DrawnFrom.arrive (drawn : lane.DrawnFrom graph) (orderly : lane.Orderly)
    (retention : Retention) (id : CallId) {load : Load}
    (same : load.outcome.bind CallGraph.ofArtifact = graph) :
    (lane.arrive retention id load).1.DrawnFrom graph ∧
      ∀ result, (lane.arrive retention id load).2.result? = some result →
        IsCopyOf graph result := by
  unfold Lane.arrive
  split
  · rename_i loaded resident
    refine ⟨drawn, ?_⟩
    rintro _ ⟨⟩
    exact .inl (drawn.resident loaded resident).symm
  · exact (drawn.enqueue id same).poll (orderly.enqueue id load) retention id

/-- A step leaves a lane that comes from the artifact, if the loaders that it starts yield it. -/
theorem DrawnFrom.act {project : String} {load : Loader}
    (drawn : lane.DrawnFrom (load.graph project)) (orderly : lane.Orderly) {step : Step}
    (draws : step.DrawsFrom (.ofLoader load)) :
    (lane.act retention project step).1.DrawnFrom (load.graph project) ∧
      ∀ progress result, (lane.act retention project step).2 = some progress →
        progress.result? = some result → IsCopyOf (load.graph project) result := by
  have silent : ∀ progress result, (none : Option Progress) = some progress →
      progress.result? = some result → IsCopyOf (load.graph project) result := by
    intro progress result none
    cases none
  have can := acted retention lane project step
  generalize lane.act retention project step = after at can ⊢
  cases can with
  | arrives id own =>
    have same : own.outcome.bind CallGraph.ofArtifact = load.graph project :=
      congrArg (·.bind CallGraph.ofArtifact) draws
    obtain ⟨left, told⟩ := (drawn.leave id).arrive (orderly.leave id) retention id same
    refine ⟨left, ?_⟩
    rintro _ result ⟨⟩
    exact told result
  | passes id other own elsewhere => exact ⟨drawn.leave id, silent⟩
  | polls id served =>
    obtain ⟨left, told⟩ := drawn.poll orderly retention id
    refine ⟨left, ?_⟩
    rintro _ result ⟨⟩
    exact told result
  | misses id elsewhere => exact ⟨drawn, silent⟩
  | cancels id => exact ⟨drawn.leave id, silent⟩
  | asks other => exact ⟨drawn, silent⟩

end Lane

/-- All that a cache holds comes from one store. -/
structure Stocked (load : Loader) (cache : Cache) : Prop where
  reachable : cache.Reachable
  drawn : ∀ project, (cache.lane project).DrawnFrom (load.graph project)

theorem stocked_start (load : Loader) : Stocked load {} where
  reachable := reachable_start
  drawn := fun project => Lane.drawnFrom_start (load.graph project)

section Stocking

variable {load : Loader} {cache : Cache} (stocked : cache.Stocked load) {retention : Retention}
  {step : Step} (draws : step.DrawsFrom (.ofLoader load))

include stocked draws

theorem Stocked.act : (cache.act retention step).1.Stocked load where
  reachable := stocked.reachable.act retention step
  drawn := by
    intro project
    rw [stocked.reachable.sound.lane_act retention step project]
    exact ((stocked.drawn project).act (stocked.reachable.orderly project) draws).1

/-- A call returns what the store gives for its project. -/
theorem Stocked.isCopyOf {event : Event} (happens : (cache.act retention step).2 = some event)
    {result : Except Failure Loaded} (returned : event.progress.result? = some result) :
    IsCopyOf (load.graph event.project) result :=
  ((stocked.drawn event.project).act (stocked.reachable.orderly event.project) draws).2
    event.progress result (stocked.reachable.act_of_event happens) returned

end Stocking

/-- Where nobody waits, what a stocked cache holds is what the store gives. -/
theorem Stocked.faithful {load : Loader} {cache : Cache} (stocked : cache.Stocked load)
    (idle : cache.calls = []) : cache.Faithful load where
  sound := stocked.reachable.sound
  idle := idle
  resident := by
    intro project loaded found
    rw [resident?_eq_graph] at found
    exact (stocked.drawn project).resident loaded found

namespace Run

/-- A run whose loads all draw on one store leaves a cache that is stocked from it. -/
theorem stocked_of_start (retention : Retention) {load : Loader} {steps : List Step}
    (draws : ∀ step ∈ steps, step.DrawsFrom (.ofLoader load)) :
    (start.steps retention steps).cache.Stocked load := by
  have further {run : Run} (stocked : run.cache.Stocked load) :
      (run.steps retention steps).cache.Stocked load := by
    induction steps generalizing run with
    | nil => exact stocked
    | cons step later ih =>
      exact ih (fun next member => draws next (List.mem_cons_of_mem _ member))
        (stocked.act (draws step List.mem_cons_self))
  exact further (stocked_start load)

end Run

end Cache

/-! ## Stores -/

/-- The loaders over artifacts that stay as they are: those of a list of documents, and those of the
files of a workspace, if these always have the same content. -/
inductive IsStore : Loader → Prop where
  | documents (documents : List (String × Json)) : IsStore (.ofDocuments documents)
  | files (workspace : Workspace) (read : FileReader) : IsStore (.ofFiles workspace read)

/-- What a store gives is the same when it is shared. -/
theorem IsStore.mapError_graph {load : Loader} (store : IsStore load) (project : String) :
    (load.graph project).mapError Failure.shared = load.graph project := by
  unfold Loader.graph
  cases given : load project with
  | ok document =>
    show (CallGraph.ofArtifact document).mapError Failure.shared = CallGraph.ofArtifact document
    cases graph : CallGraph.ofArtifact document with
    | ok graph => rfl
    | error failure =>
      obtain ⟨context, message, rfl⟩ := CallGraph.ofArtifact_malformed graph
      rfl
  | error failure =>
    cases store with
    | documents documents =>
      unfold Loader.ofDocuments at given
      cases found : documents.lookup project with
      | some document =>
        simp only [found] at given
        cases given
      | none =>
        simp only [found] at given
        obtain rfl := Except.error.inj given
        rfl
    | files workspace read =>
      unfold Loader.ofFiles at given
      dsimp only at given
      cases opened : read (workspace.artifactPath project) with
      | error fault =>
        simp only [opened] at given
        obtain rfl := Except.error.inj given
        rfl
      | ok bytes =>
        simp only [opened, artifactOfBytes] at given
        cases content : Json.read bytes with
        | ok document =>
          rw [content] at given
          cases given
        | error error =>
          rw [content] at given
          obtain rfl := Except.error.inj given
          rfl

theorem IsStore.eq_of_isCopyOf {load : Loader} (store : IsStore load) {project : String}
    {result : Except Failure Loaded} (copy : Cache.IsCopyOf (load.graph project) result) :
    result.map Loaded.graph = load.graph project := by
  rcases copy with same | shared
  · exact same
  · exact shared.trans (store.mapError_graph project)

end CallAtlas
