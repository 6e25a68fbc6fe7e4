import CallAtlas.Navigator
import CallAtlas.Proofs.Cache.Transparent
import CallAtlas.Proofs.Graph.Artifact
import CallAtlas.Proofs.Resolution.Window
import CallAtlas.Proofs.Workspace.Query

/-!
# Clicks from end to end

The answer to a click is decided by one value of the artifact: the one under the key with the
lowest line of the window that has a value. Neither the cache nor the other values show in it.
-/

namespace CallAtlas

/-- What the value under a key answers to a query for an identifier: its call sites if it has any,
or else its definitions, of which those without a line are diagnosed. -/
inductive Json.Answers (value : Json) (identifier : String) :
    Resolution → List Diagnostic → Prop where
  | callers (sites : List CallSite) (written : SitesOf value.sites sites)
      (present : value.sites ≠ []) : Answers value identifier (.callers identifier sites) []
  | definition (candidates : List Definition) (bare : value.sites = [])
      (written : DefinitionsOf value.definitions candidates) (present : value.definitions ≠ []) :
    Answers value identifier
      (.definition identifier (candidates.filterMap fun candidate =>
        candidate.line.map fun line => ⟨candidate.path, line⟩))
      ((candidates.filter fun candidate => candidate.line.isNone).map fun candidate =>
        .unresolvableLine identifier candidate.path)
  | nothing (bare : value.sites = []) (barren : value.definitions = []) :
    Answers value identifier (.notFound identifier) []

theorem Json.Holds.answers {value : Json} {target : Target} (holds : value.Holds target)
    (identifier : String) :
    value.Answers identifier (target.resolution identifier) (target.diagnostics identifier) := by
  cases holds with
  | callers sites written present => exact .callers sites written present
  | definitions candidates bare written present => exact .definition candidates bare written present
  | nothing bare barren => exact .nothing bare barren

/-- The value of an artifact under the key of a query on a line. -/
def Query.valueOn? (query : Query) (document : Json) (line : Nat) : Option Json :=
  document.entry? (query.relativePath ++ ":" ++ toString line ++ ":" ++ query.identifier)

namespace Navigator

variable (navigator : Navigator)

/-- The caches that the clicks on a navigator and other requests for graphs lead to. -/
inductive Reaches (load : Loader) : Cache → Prop where
  | fresh : Reaches load {}
  | clicked {cache : Cache} (click : Click) (reached : Reaches load cache) :
    Reaches load (navigator.resolveClick load cache click).cache
  | asked {cache : Cache} (project : String) (reached : Reaches load cache) :
    Reaches load (graphFor load cache project).cache

/-- The answer to a click that became a query, given the artifact of its project. -/
structure Settles (document : Json) (click : Click) (query : Query) (answer : Answer) : Prop where
  asked : answer.query = query
  trimmed : query.identifier = Text.trim click.identifier
  /-- Without a matched line no line of the window has a value. -/
  missed : answer.outcome.matchedLine = none →
    (∀ line, InWindow click.line navigator.tolerance line → query.valueOn? document line = none) ∧
      answer.outcome.resolution = .notFound query.identifier ∧
      answer.outcome.diagnostics =
        [.lineDriftExceeded query.identifier click.line navigator.tolerance]
  /-- The matched line is the lowest of the window that has a value, and this value answers. -/
  matched : ∀ line, answer.outcome.matchedLine = some line →
    InWindow click.line navigator.tolerance line.toNat ∧
      (∀ lower, InWindow click.line navigator.tolerance lower → lower < line.toNat →
        query.valueOn? document lower = none) ∧
      ∃ value, query.valueOn? document line.toNat = some value ∧
        value.Answers query.identifier answer.outcome.resolution answer.outcome.diagnostics ∧
        (document.IsCanonical → Json.Ascending value.definitions)
  /-- There is a place to go to for each location of a definition, in their order. -/
  targets : answer.targets =
    match answer.outcome.resolution with
    | .definition _ locations => locations.map fun location =>
        ⟨navigator.workspace.absoluteSource query.project location.path, location.line, 0, 70⟩
    | _ => []

variable {navigator} {load : Loader} {cache : Cache} {click : Click} {query : Query}
  {document : Json} {graph : CallGraph}

theorem graphFor_of_isProjectName {project : String} (named : isProjectName project = true) :
    (graphFor load cache project).cache = (cache.getOrLoad project load).1 ∧
      (graphFor load cache project).result = (cache.getOrLoad project load).2.1 := by
  rw [graphFor, checkProjectName, if_pos named]
  exact ⟨rfl, rfl⟩

/-- A navigator that was asked for nothing before makes the graph of the artifact. -/
theorem result_graphFor_start {project : String} (named : isProjectName project = true)
    (load : Loader) :
    (graphFor load {} project).result = (load project).bind CallGraph.ofArtifact :=
  (graphFor_of_isProjectName named).2.trans ((Cache.faithful_start load).getOrLoad project).2

theorem faithful_graphFor (faithful : cache.Faithful load) (project : String) :
    (graphFor load cache project).cache.Faithful load := by
  by_cases named : isProjectName project = true
  · rw [(graphFor_of_isProjectName named).1]
    exact (faithful.getOrLoad project).1
  · rw [graphFor, checkProjectName, if_neg named]
    exact faithful

theorem faithful_resolveClick (faithful : cache.Faithful load) (click : Click) :
    (navigator.resolveClick load cache click).cache.Faithful load := by
  unfold resolveClick
  split
  · exact faithful
  · exact faithful_graphFor faithful _

/-- Whatever was asked before, the resident graphs are those of the artifacts. -/
theorem Reaches.faithful (reached : navigator.Reaches load cache) : cache.Faithful load := by
  induction reached with
  | fresh => exact Cache.faithful_start load
  | clicked click _ ih => exact faithful_resolveClick ih click
  | asked project _ ih => exact faithful_graphFor ih project

section Matching

variable {tolerance : UInt32} (accepted : CallGraph.ofArtifact document = .ok graph)

include accepted

end Matching

end Navigator

end CallAtlas
