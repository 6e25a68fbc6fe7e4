import CallAtlas.Proofs.Navigator.Click
import CallAtlas.Session.Step

/-!
# Sessions of one navigator

A navigator that works alone, with a cache of its own and no streams of requests, never finds a
request unfinished: each question is answered from the files and its cache, and nothing else of the
session shows.
-/

namespace CallAtlas

/-- What a question comes to once it is known what the graph is that it needs. -/
def Question.outcome (navigator : Navigator) (graph : Except Failure CallGraph) :
    Question → Session.Outcome
  | .click event => .of .answer <|
    (navigator.workspace.query event).bind fun query => graph.map (navigator.answer query)
  | .graphFor _ => .of .graph graph
  | .fetch _ => .done

namespace Participant

variable (participant : Participant) (tree : FileTree) {question : Question}

/-- A question that needs a graph gets it from the cache, and asks the loader for nothing else. -/
theorem visit_of_project {project : String}
    (needed : question.project? participant.navigator = some project) (cache : Cache) :
    participant.visit tree cache question =
      let (after, graph, asked) := cache.getOrLoad project (participant.loader tree)
      ⟨after, if asked then [project] else [], question.outcome participant.navigator graph⟩ := by
  cases question with
  | click click =>
    simp only [Question.project?, Errand.project?] at needed
    cases became : participant.navigator.workspace.query click with
    | error failure =>
      rw [became] at needed
      cases needed
    | ok query =>
      rw [became] at needed
      obtain rfl : query.project = project := Option.some.inj needed
      have named := Workspace.isProjectName_of_projectOf (Workspace.query_eq_ok became).1
      simp only [visit, Navigator.resolveClick, became, Navigator.graphFor, checkProjectName,
        if_pos named, Question.outcome]
      rfl
  | graphFor name =>
    simp only [Question.project?, Errand.project?] at needed
    split at needed
    · rename_i named
      obtain rfl := Option.some.inj needed
      simp only [visit, Navigator.graphFor, checkProjectName, if_pos named, Question.outcome]
      rfl
    · cases needed
  | fetch name => cases needed

/-- A question that needs no graph has nothing to do with the cache. -/
theorem visit_of_project?_eq_none (free : question.project? participant.navigator = none) :
    ∃ fetched outcome, ∀ cache,
      participant.visit tree cache question = ⟨cache, fetched, outcome⟩ := by
  cases question with
  | click click =>
    simp only [Question.project?, Errand.project?] at free
    cases became : participant.navigator.workspace.query click with
    | error failure =>
      refine ⟨[], .failed failure, fun cache => ?_⟩
      simp only [visit, Navigator.resolveClick, became]
      rfl
    | ok query =>
      rw [became] at free
      cases free
  | graphFor name =>
    simp only [Question.project?, Errand.project?] at free
    split at free
    · cases free
    · rename_i unnamed
      refine ⟨[], .failed (.refused (.projectName name)), fun cache => ?_⟩
      simp only [visit, Navigator.graphFor, checkProjectName, if_neg unnamed]
      rfl
  | fetch name => exact ⟨[name], _, fun _ => rfl⟩

end Participant

namespace Session

section Quiet

variable {session : Session} (quiet : session.unfinished = [])

include quiet

/-- Where nothing is unfinished, nothing gets on while a step waits. -/
theorem advance_of_quiet (held : Option (Nat × String)) : session.advance held = session := by
  obtain ⟨tree, participants, caches, unfinished⟩ := session
  obtain rfl : unfinished = [] := quiet
  rfl

/-- Nobody else keeps a question waiting, so it comes to what the visit of its navigator makes. -/
theorem step_ask_of_quiet {number : Nat} {participant : Participant}
    (here : session.participants[number]? = some participant) (question : Question) :
    session.step number (.ask question) =
      let visit := participant.visit session.tree (session.cacheOf participant) question
      (session.leave number participant visit, visit.result) := by
  have unread (cache : Nat) (project : String) : session.reading? cache project = none := by
    rw [reading?, quiet]
    rfl
  have unjoined : session.ask number question = session.put number question := by
    unfold ask
    rw [here]
    cases participant.held question <;> simp [unread]
  have left (visit : Visit Outcome) :
      (session.leave number participant visit).unfinished = [] := quiet
  rw [step, unjoined, put, here]
  -- Nothing is unfinished, so it does not matter whether the question waits.
  simp only [advance_of_quiet (left _), ite_self]

end Quiet

/-- A step of a session in which no stream is served. -/
inductive Move where
  | ask (question : Question)
  | write (path : Path) (node : Node)
  | remove (path : Path)

def Move.step : Move → Step
  | .ask question => .ask question
  | .write path node => .write path node
  | .remove path => .remove path

/-- The files after a move. -/
def Move.files (tree : FileTree) : Move → FileTree
  | .ask _ => tree
  | .write path node => tree.write path node
  | .remove path => tree.remove path

/-- The session after moves of its first navigator. -/
def play (session : Session) (moves : List Move) : Session :=
  moves.foldl (fun session move => (session.step 0 move.step).1) session

/-- The session of one navigator that was not asked for anything yet. -/
def fresh (navigator : Navigator) (source : ArtifactSource) (tree : FileTree) : Session :=
  ({ tree } : Session).add navigator source none

/-- The session of one navigator with a cache of its own. -/
def lone (navigator : Navigator) (source : ArtifactSource) (tree : FileTree) (cache : Cache)
    (fetched : List String) : Session where
  tree := tree
  participants := [⟨navigator, source, 0, fetched⟩]
  caches := [cache]

variable (navigator : Navigator) (source : ArtifactSource) (tree : FileTree) (cache : Cache)
  (fetched : List String)

theorem fresh_eq_lone : fresh navigator source tree = lone navigator source tree {} [] :=
  rfl

/-- What was asked for before does not show in what the visit of the navigator makes. -/
theorem step_ask_lone (question : Question) :
    (lone navigator source tree cache fetched).step 0 (.ask question) =
      let visit := (Participant.mk navigator source 0 []).visit tree cache question
      (lone navigator source tree visit.cache (fetched ++ visit.fetched), visit.result) := by
  have visits : (Participant.mk navigator source 0 fetched).visit tree cache question =
      (Participant.mk navigator source 0 []).visit tree cache question := by
    cases question <;> rfl
  have quiet : (lone navigator source tree cache fetched).unfinished = [] := rfl
  rw [step_ask_of_quiet quiet rfl, ← visits]
  rfl

end Session

end CallAtlas
