import CallAtlas.Cache.Basic

/-!
# Runs of a cache

The history of a cache, one step after another: calls (`get_or_load`) arrive, are polled and
cancelled in any order, and graphs are asked for (`get`). A run remembers which loaders it started
and which calls returned which graph, so that two graphs can be told to be the same object. The name
of a call that has ended or was dropped may be given to another.
-/

namespace CallAtlas.Cache

/-- One step of a run. No two calls in flight have the same name. -/
inductive Step where
  /-- A call for a project arrives and is polled once; a call in flight of the same name is dropped
  before. -/
  | call (id : CallId) (project : String) (load : Load)
  /-- A call is polled. -/
  | poll (id : CallId)
  /-- A call is dropped. -/
  | cancel (id : CallId)
  /-- The graph of a project is asked for. -/
  | get (project : String)

/-- A poll of a call, the first at its arrival included. -/
structure Event where
  id : CallId
  project : String
  progress : Progress

/-- What a step shows. -/
inductive Sight where
  /-- The reply to a call, and the earliest call before it that returned the same graph. -/
  | reply (reply : Reply) (sameAs : Option CallId)
  /-- No such call is in flight. -/
  | noCall
  /-- Whether the dropped call was in flight. -/
  | cancelled (wasInFlight : Bool)
  /-- The graph, if it is resident. -/
  | resident (graph : Option Loaded)

/-- A call that returned a graph, and the project that it was for. -/
structure Finish where
  id : CallId
  project : String
  loaded : Loaded

/-- The cache after a step, and the poll of a call that the step is. -/
def act (retention : Retention) (cache : Cache) : Step → Cache × Option Event
  | .call id project load =>
    let (cache, progress) := (cache.cancel id).1.call retention project id load
    (cache, some ⟨id, project, progress⟩)
  | .poll id =>
    let (cache, polled) := cache.poll retention id
    (cache, polled.map fun (project, progress) => ⟨id, project, progress⟩)
  | .cancel id => ((cache.cancel id).1, none)
  | .get _ => (cache, none)

/-- A cache and its history. -/
structure Run where
  cache : Cache := {}
  /-- The loaders that were started: the call of each, and the project. -/
  loads : List (CallId × String) := []
  /-- The calls that returned a graph. -/
  finished : List Finish := []

namespace Run

def start : Run := {}

/-- The earliest call that returned the graph of a project that this load brought. -/
def sameAs? (run : Run) (project : String) (loaded : Loaded) : Option CallId :=
  (run.finished.find? fun finish =>
    finish.project = project ∧ finish.loaded.origin = loaded.origin).map Finish.id

/-- Writes down what a poll of a call did. -/
def note (run : Run) (event : Event) : Run :=
  { run with
    loads :=
      if event.progress.loader = .started then run.loads ++ [(event.id, event.project)]
      else run.loads
    finished :=
      match event.progress.reply with
      | .done (.ok loaded) => run.finished ++ [⟨event.id, event.project, loaded⟩]
      | _ => run.finished }

def sightOf (run : Run) (event : Event) : Sight :=
  match event.progress.reply with
  | .done (.ok loaded) => .reply (.done (.ok loaded)) (run.sameAs? event.project loaded)
  | reply => .reply reply none

/-- What a step shows that is the poll of a call or is not. -/
def sight (run : Run) : Step → Option Event → Sight
  | _, some event => run.sightOf event
  | .cancel id, none => .cancelled (run.cache.cancel id).2
  | .get project, none => .resident (run.cache.resident? project)
  | _, none => .noCall

/-- The run after a step, and what the step shows. -/
def step (retention : Retention) (run : Run) (next : Step) : Run × Sight :=
  let (cache, event) := run.cache.act retention next
  let noted := (event.map run.note).getD run
  ({ noted with cache }, run.sight next event)

def steps (retention : Retention) (run : Run) (steps : List Step) : Run :=
  steps.foldl (fun run next => (run.step retention next).1) run

end Run

end CallAtlas.Cache
