import CallAtlas.Artifacts
import CallAtlas.Cache.Basic
import CallAtlas.Report.Answer
import CallAtlas.Workspace

/-!
# Navigators

A navigator answers clicks: it makes a query of a click, gets the graph of the project, which is
loaded if the cache does not hold it, looks the query up, and says where an editor should go. A
click that is refused and a project name that is refused reach neither cache nor loader.
-/

namespace CallAtlas

/-- How the clicks of a workspace are answered (`Navigator`). -/
structure Navigator where
  workspace : Workspace
  /-- How far below a click its entry may stand. -/
  tolerance : UInt32 := defaultTolerance
  deriving DecidableEq, Repr

/-- What is left behind by work that may load graphs: the cache, the projects whose artifact the
loader was asked for, and the result. -/
structure Visit (α : Type) where
  cache : Cache
  fetched : List String
  result : α

namespace Visit

variable {α β : Type}

/-- Work that needs no graph. -/
def idle (cache : Cache) (result : α) : Visit α :=
  ⟨cache, [], result⟩

/-- The visit with another result. -/
def map (f : α → β) (visit : Visit α) : Visit β :=
  ⟨visit.cache, visit.fetched, f visit.result⟩

end Visit

/-- The places to go to for a resolution in a project (the targets of `resolve_click`). -/
def Resolution.targets (workspace : Workspace) (project : String) :
    Resolution → List NavigationTarget
  | .definition _ locations =>
    locations.map fun location =>
      .ofRow (workspace.absoluteSource project location.path) location.line
  | _ => []

namespace Navigator

variable (navigator : Navigator) (load : Loader)

/-- The graph of a project (`graph_for`). -/
def graphFor (cache : Cache) (project : String) : Visit (Except Failure CallGraph) :=
  match checkProjectName project with
  | .error failure => .idle cache (.error failure)
  | .ok () =>
    let (cache, result, asked) := cache.getOrLoad project load
    ⟨cache, if asked then [project] else [], result⟩

/-- The answer that a graph gives to a query. -/
def answer (query : Query) (graph : CallGraph) : Answer :=
  let outcome := resolve navigator.tolerance query graph
  ⟨query, outcome, outcome.resolution.targets navigator.workspace query.project⟩

/-- The answer to a click (`resolve_click`). -/
def resolveClick (cache : Cache) (click : Click) : Visit (Except Failure Answer) :=
  match navigator.workspace.query click with
  | .error failure => .idle cache (.error failure)
  | .ok query =>
    (graphFor load cache query.project).map fun result => result.map (navigator.answer query)

end Navigator

end CallAtlas
