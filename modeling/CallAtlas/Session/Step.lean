import CallAtlas.Session.Unfinished

/-!
# Steps of a session

One step after another, a navigator is asked or fed a stream of requests, and files come and go. A
step waits if it reads a file, if somebody else is loading its graph, or if it serves a stream to
its end; unfinished requests get on meanwhile.
-/

namespace CallAtlas

/-- What a navigator is asked for. -/
inductive Question where
  | click (click : Click)
  | graphFor (project : String)
  /-- The artifact, from the loader and past the cache. -/
  | fetch (project : String)

/-- One step of a session. -/
inductive Session.Step where
  | ask (question : Question)
  | serve (bytes : List UInt8)
  | write (path : Path) (node : Node)
  | remove (path : Path)

/-- What a step comes to. -/
inductive Session.Outcome where
  | answer (answer : Answer)
  | graph (graph : CallGraph)
  | document (document : Json)
  | responses (responses : List Response)
  | failed (failure : Failure)
  | done

/-- The outcome of work that may fail. -/
def Session.Outcome.of {α : Type} (make : α → Outcome) : Except Failure α → Outcome
  | .ok a => make a
  | .error failure => .failed failure

/-- The project whose graph a question needs. -/
def Question.project? (navigator : Navigator) : Question → Option String
  | .click event => (Errand.resolve event).project? navigator
  | .graphFor name => (Errand.info name).project? navigator
  | .fetch _ => none

namespace Participant

variable (participant : Participant)

/-- What a navigator does with a question. -/
def visit (tree : FileTree) (cache : Cache) : Question → Visit Session.Outcome
  | .click click =>
    (participant.navigator.resolveClick (participant.loader tree) cache click).map (.of .answer)
  | .graphFor project =>
    (Navigator.graphFor (participant.loader tree) cache project).map (.of .graph)
  | .fetch project => ⟨cache, [project], .of .document (participant.loader tree project)⟩

/-- The project that a question holds while its graph is loaded, with the number of the cache. -/
def held (question : Question) : Option (Nat × String) :=
  (question.project? participant.navigator).map fun project => (participant.cache, project)

end Participant

namespace Session

/-- Puts a question to the navigator with a number; a question that reads a file waits for it. -/
def put (session : Session) (number : Nat) (question : Question) : Session × Outcome :=
  match session.participants[number]? with
  | none => (session, .done)
  | some participant =>
    let visit := participant.visit session.tree (session.cacheOf participant) question
    let after := session.leave number participant visit
    if participant.readsFiles && !visit.fetched.isEmpty then
      (after.advance (participant.held question), visit.result)
    else (after, visit.result)

/-- Asks the navigator with a number. Where an unfinished request is loading the graph that the
question needs, the question waits for it and shares its failure. -/
def ask (session : Session) (number : Nat) (question : Question) : Session × Outcome :=
  let joined := do
    let participant ← session.participants[number]?
    let (cache, project) ← participant.held question
    let outcome ← session.reading? cache project
    return outcome.bind CallGraph.ofArtifact
  match joined with
  | none => session.put number question
  | some (.ok _) => (session.advance none).put number question
  | some (.error failure) => (session.advance none, .failed failure.shared)

/-- Whether a message to a navigator waits for a graph to be loaded. -/
def isWaiting (session : Session) (participant : Participant) (message : Message) : Bool :=
  (message.project? participant.navigator).any fun project =>
    ((session.cacheOf participant).resident? project).isNone &&
      (participant.readsFiles || (session.reading? participant.cache project).isSome)

/-- The responses of the navigator with a number to messages in their order. -/
def answerAll (session : Session) (number : Nat) (messages : List Message) :
    Session × List Response :=
  match session.participants[number]? with
  | none => (session, [])
  | some participant =>
    let visit := participant.navigator.answerAll (participant.loader session.tree)
      (session.cacheOf participant) messages
    (session.leave number participant visit, visit.result)

/-- Serves a stream to its end, unfinished requests first. Messages that wait for a graph are
answered after those that do not. -/
def serveAll (session : Session) (number : Nat) (participant : Participant)
    (messages : List Message) : Session × List Response :=
  let session := session.advance none
  let (waiting, ready) := messages.partition (session.isWaiting participant)
  let (session, early) := session.answerAll number ready
  let session := if waiting.isEmpty then session else session.advance none
  let (session, late) := session.answerAll number waiting
  (session, early ++ late)

/-- Feeds a stream of requests to the navigator with a number. A stream that breaks is not waited
for, and leaves its messages unfinished. -/
def serve (session : Session) (number : Nat) (stream : RequestStream) : Session × Outcome :=
  match session.participants[number]?, stream.failure? with
  | none, _ => (session, .done)
  | some participant, some failure =>
    (session.abandon number participant.navigator stream.messages, .failed failure)
  | some participant, none =>
    let (session, responses) := session.serveAll number participant stream.messages
    (session, .responses responses)

/-- The session after a step of the navigator with a number, and what the step comes to. Where no
navigator has the number, nothing is asked or served. -/
def step (session : Session) (number : Nat) : Step → Session × Outcome
  | .ask question => session.ask number question
  | .serve bytes => session.serve number (.ofBytes bytes)
  | .write path node => ({ session with tree := session.tree.write path node }, .done)
  | .remove path => ({ session with tree := session.tree.remove path }, .done)

end Session

end CallAtlas
