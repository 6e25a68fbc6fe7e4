import CallAtlas.Session.Basic

/-!
# Unfinished requests

A stream that breaks leaves the requests in front of the break behind, and they get on in one of
the orders in which they may. A session does one thing at a time: here they do not get on by
themselves, but whenever a later step has to wait. Then each of them is taken up in its turn. With
an artifact in memory it is finished at once. With a file it starts to read, and is finished the
next time it is taken up. A request whose graph is just being loaded for somebody else shares what
comes of that and leaves no trace of its own.
-/

namespace CallAtlas.Session

/-- What an unfinished request is reading for a project of the cache with a number. -/
def reading? (session : Session) (cache : Nat) (project : String) : Option (Except Failure Json) :=
  session.unfinished.findSome? fun request =>
    if request.project = project ∧
        session.participants[request.number]?.map Participant.cache = some cache then
      request.reading
    else none

/-- Whether a project of a navigator is not resident, nor is it being loaded for anyone: neither
for an unfinished request nor for the step that waits, which may hold one project of one cache. -/
def isFree (session : Session) (held : Option (Nat × String)) (participant : Participant)
    (project : String) : Bool :=
  ((session.cacheOf participant).resident? project).isNone &&
    held != some (participant.cache, project) &&
    (session.reading? participant.cache project).isNone

/-- Takes up a request of a navigator for which no file is being read. -/
def begin (session : Session) (held : Option (Nat × String)) (participant : Participant)
    (request : Unfinished) : Session :=
  let load := participant.loader session.tree
  if !session.isFree held participant request.project then session
  else if participant.readsFiles then
    let request := { request with reading := some (load request.project) }
    { session with unfinished := session.unfinished ++ [request] }
  else
    session.leave request.number participant
      (Navigator.graphFor load (session.cacheOf participant) request.project)

/-- Takes up an unfinished request. -/
def takeUp (held : Option (Nat × String)) (session : Session) (request : Unfinished) : Session :=
  match session.participants[request.number]?, request.reading with
  | none, _ => session
  | some participant, none => session.begin held participant request
  | some participant, some outcome =>
    session.leave request.number participant
      (Navigator.graphFor (fun _ => outcome) (session.cacheOf participant) request.project)

/-- Takes up all unfinished requests in their order, while a step waits that may hold a project. -/
def advance (session : Session) (held : Option (Nat × String)) : Session :=
  session.unfinished.foldl (takeUp held) { session with unfinished := [] }

/-- Leaves messages to a navigator unfinished. Those that need no graph leave no trace. -/
def abandon (session : Session) (number : Nat) (navigator : Navigator)
    (messages : List Message) : Session :=
  let requests := (messages.filterMap (Message.project? navigator)).map fun project =>
    { number, project : Unfinished }
  { session with unfinished := session.unfinished ++ requests }

end CallAtlas.Session
