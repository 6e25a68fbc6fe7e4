import CallAtlas.Cache.Lock
import CallAtlas.Graph.Basic

/-!
# Slots

A slot (`ProjectSlot`) is what a cache knows of one project: its graph once a load has succeeded,
the failed loads so far, and the lock that is held for the duration of a load. A call
(`get_or_load`) that gets the lock finds the graph, or shares a failure that came after its arrival,
or runs its own loader.
-/

namespace CallAtlas

/-- A graph as one load brought it: two graphs are the same object if the same call loaded them. -/
structure Loaded where
  /-- The call whose loader brought the graph. -/
  origin : CallId
  graph : CallGraph
  deriving DecidableEq, Repr

/-- What a loader (`GraphLoader`) will yield, and how often it is polled in vain before. -/
structure Load where
  outcome : Except Failure Json
  suspensions : Nat

/-- Where a call in flight stands. -/
inductive Stage where
  /-- It waits for the lock, or owns it and was not polled since. -/
  | waiting
  /-- Its loader runs and stays pending for so many polls more. -/
  | loading (suspensions : Nat)
  deriving DecidableEq, Repr

/-- What a call in flight brings along and remembers: the local state of `get_or_load`. -/
structure Inquiry where
  id : CallId
  load : Load
  /-- The number of failed loads when the call arrived (`failures_seen`), with no bound, as in
  `Ledger.failures`. -/
  failuresSeen : Nat
  stage : Stage

/-- The latest failed load, as it is kept for those who waited for it (`FailedLoad`). -/
structure FailedLoad where
  /-- How many loads had failed with it, with no bound, as in `Ledger.failures`. -/
  attempt : Nat
  failure : Failure
  deriving DecidableEq, Repr

/-- What the loads of a project have come to (`ProjectSlot` without its lock). -/
structure Ledger where
  graph : Option Loaded := none
  /-- The number of failed loads. It has no bound here. The counter of a running cache (`failures`)
  has 64 bits and starts again from zero behind its last number, so the two agree as long as fewer
  than 2^64 loads of one slot have failed, which takes as many steps of a run. -/
  failures : Nat := 0
  lastFailure : Option FailedLoad := none
  deriving DecidableEq, Repr

/-- What a cache knows of a project (`ProjectSlot`). -/
structure Slot extends Ledger where
  lock : FairLock := {}
  deriving DecidableEq, Repr

/-- What a call does when it gets the lock. -/
inductive Turn where
  /-- It returns the graph that is there. -/
  | takes (loaded : Loaded)
  /-- It returns a copy of the failure that came while it waited. -/
  | shares (failure : Failure)
  /-- It runs its loader. -/
  | loads
  deriving DecidableEq, Repr

/-- What a poll of a call tells. -/
inductive Reply where
  | pending
  | done (result : Except Failure Loaded)

/-- What a poll of a call does with the loader of the call. -/
inductive LoaderUse where
  | unused
  | started
  | resumed
  deriving DecidableEq, Repr

/-- What a poll of a call does: its reply, and its use of the loader. -/
structure Progress where
  reply : Reply
  loader : LoaderUse

/-- What the load of a call comes to when it ends: `from_artifact` of what the loader yields. -/
def Inquiry.outcome (inquiry : Inquiry) : Except Failure Loaded :=
  (inquiry.load.outcome.bind CallGraph.ofArtifact).map fun graph => ⟨inquiry.id, graph⟩

namespace Ledger

/-- The ledger after a load has ended, at the end of `get_or_load`: the first graph stays, and a
failure is counted and kept. -/
def settle (ledger : Ledger) : Except Failure Loaded → Ledger
  | .ok loaded => { ledger with graph := ledger.graph.or (some loaded), lastFailure := none }
  | .error failure =>
    let attempt := ledger.failures + 1
    { ledger with failures := attempt, lastFailure := some ⟨attempt, failure.shared⟩ }

/-- The failure that a call shares: the latest, if it came after the arrival of the call. -/
def sharedFailure? (ledger : Ledger) (failuresSeen : Nat) : Option Failure :=
  match ledger.lastFailure with
  | some failed => if failuresSeen < failed.attempt then some failed.failure.shared else none
  | none => none

/-- What `get_or_load` does that gets the lock now and noted a number of failures at its arrival. -/
def turn (ledger : Ledger) (failuresSeen : Nat) : Turn :=
  match ledger.graph, ledger.sharedFailure? failuresSeen with
  | some loaded, _ => .takes loaded
  | none, some failure => .shares failure
  | none, none => .loads

end Ledger

end CallAtlas
