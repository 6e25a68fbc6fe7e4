import CallAtlas.Server.Basic

/-!
# Sessions

Several navigators work side by side over one file tree. Each has its artifacts from memory or from
the tree, and a cache of its own or one that it shares. A session also knows the requests that are
not finished though nobody waits for their responses any more.
-/

namespace CallAtlas

/-- Where a navigator has its artifacts from. -/
inductive ArtifactSource where
  /-- From these documents, at once. -/
  | memory (documents : List (String × Json))
  /-- From the files of its workspace, which takes time. -/
  | files

/-- A navigator at work. -/
structure Participant where
  navigator : Navigator
  source : ArtifactSource
  /-- The number of the cache that it uses. -/
  cache : Nat
  /-- The projects that its loader was asked for. -/
  fetched : List String := []

namespace Participant

variable (participant : Participant)

/-- The loader of a navigator at work. -/
def loader (tree : FileTree) : Loader :=
  match participant.source with
  | .memory documents => .ofDocuments documents
  | .files => .ofFiles participant.navigator.workspace tree.read

def readsFiles : Bool :=
  match participant.source with
  | .memory _ => false
  | .files => true

/-- The number of times that artifacts in memory were asked for; files are not counted. -/
def fetchCount? : Option Nat :=
  if participant.readsFiles then none else some participant.fetched.length

end Participant

/-- A request that a navigator has taken and not finished, and whose response nobody waits for. -/
structure Unfinished where
  /-- The number of the navigator. -/
  number : Nat
  /-- The project whose graph the request needs. -/
  project : String
  /-- What the loader will yield, once a file is being read for the request. -/
  reading : Option (Except Failure Json) := none

/-- Navigators, their caches, and the files they share. -/
structure Session where
  tree : FileTree := {}
  participants : List Participant := []
  caches : List Cache := []
  /-- The unfinished requests in the order of their arrival. -/
  unfinished : List Unfinished := []

namespace Session

def start : Session := {}

/-- The session with one more navigator, which uses the cache of an earlier one or a new one. -/
def add (session : Session) (navigator : Navigator) (source : ArtifactSource)
    (sharing : Option Nat) : Session :=
  let join := fun cache => session.participants ++ [{ navigator, source, cache }]
  match sharing.bind fun earlier => session.participants[earlier]? with
  | some earlier => { session with participants := join earlier.cache }
  | none =>
    { session with
      participants := join session.caches.length
      caches := session.caches ++ [{}] }

/-- The cache that a navigator uses. -/
def cacheOf (session : Session) (participant : Participant) : Cache :=
  session.caches[participant.cache]?.getD {}

/-- The session that a visit of the navigator with a number leaves behind. -/
def leave {α : Type} (session : Session) (number : Nat) (participant : Participant)
    (visit : Visit α) : Session :=
  let fetched := participant.fetched ++ visit.fetched
  { session with
    participants := session.participants.set number { participant with fetched }
    caches := session.caches.set participant.cache visit.cache }

end Session

end CallAtlas
