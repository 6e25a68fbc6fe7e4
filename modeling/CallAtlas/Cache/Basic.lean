import CallAtlas.Cache.Slot

/-!
# Caches of call graphs

A cache (`CallGraphCache`) has a slot for each project that it was asked for. A call in flight holds
the slot that it found when it arrived until it ends. Graphs stay for ever. A slot without a graph
is dropped when a call leaves it with a failure and nobody else holds it; whether it is dropped at
all is a choice of the cache that no answer shows.
-/

namespace CallAtlas

/-- What becomes of a slot without a graph when the last call leaves it with a failure. -/
inductive Retention where
  | dropIdle
  | keepIdle
  deriving DecidableEq, Repr

/-- The number of a slot. -/
abbrev SlotId := Nat

/-- A call in flight, what it is for, and the slot that it holds. -/
structure Call extends Inquiry where
  project : String
  slot : SlotId

/-- The call at another stage if it has the name given. -/
def Call.restage (id : CallId) (stage : Stage) (call : Call) : Call :=
  if call.id = id then { call with stage } else call

/-- The slots of projects (`CallGraphCache`), and the calls in flight. -/
structure Cache where
  /-- The slot of each project that has one. -/
  slots : List (String × SlotId) := []
  /-- What stands in each slot. -/
  store : SlotId → Slot := fun _ => {}
  /-- The number of slots made so far, which is the number of the next. -/
  made : SlotId := 0
  /-- The calls in flight in the order of their arrival. -/
  calls : List Call := []

namespace Cache

def empty : Cache := {}

def slot? (cache : Cache) (project : String) : Option SlotId :=
  cache.slots.lookup project

/-- The graph of a project, if it is resident (`get`). -/
def resident? (cache : Cache) (project : String) : Option Loaded :=
  (cache.slot? project).bind fun slot => (cache.store slot).graph

/-- The projects whose graph is resident, in ascending order (`resident_projects`). -/
def residentProjects (cache : Cache) : List String :=
  (Json.sortMembers (cache.slots.filter fun entry => (cache.store entry.2).graph.isSome)).map
    Prod.fst

/-- How many hold a slot (`strong_count`): the cache, if it is the slot of a project, and each call
in flight. -/
def handles (cache : Cache) (slot : SlotId) : Nat :=
  cache.slots.countP (fun entry => entry.2 = slot) +
    cache.calls.countP fun call => call.slot = slot

/-- The cache with a change in a slot. -/
def write (cache : Cache) (slot : SlotId) (change : Slot → Slot) : Cache :=
  { cache with
    store := fun other => if other = slot then change (cache.store slot) else cache.store other }

/-- The cache with a new slot for a project. -/
def make (cache : Cache) (project : String) : Cache :=
  { cache with slots := (project, cache.made) :: cache.slots, made := cache.made + 1 }.write
    cache.made fun _ => {}

/-- The slot of a project, which is made if there is none (`slot`). -/
def openSlot (cache : Cache) (project : String) : Cache × SlotId :=
  match cache.slot? project with
  | some slot => (cache, slot)
  | none => (cache.make project, cache.made)

/-- The cache with one more call in flight, which asks for the lock of its slot. -/
def enroll (cache : Cache) (call : Call) : Cache :=
  { cache with calls := cache.calls ++ [call] }.write call.slot fun slot =>
    { slot with lock := slot.lock.request call.id }

/-- The cache without a call, which gives back its slot and the lock. -/
def retire (cache : Cache) (call : Call) : Cache :=
  { cache with calls := cache.calls.filter fun other => other.id ≠ call.id }.write call.slot
    fun slot => { slot with lock := slot.lock.leave call.id }

/-- The cache with a call at another stage. -/
def advance (cache : Cache) (call : Call) (stage : Stage) : Cache :=
  { cache with calls := cache.calls.map (Call.restage call.id stage) }

/-- The cache without the slot of a project. -/
def forget (cache : Cache) (project : String) : Cache :=
  { cache with slots := cache.slots.filter fun entry => entry.1 ≠ project }

/-- Drops the slot of a project that is about to be left by a call, if it holds no graph and only
the cache and the call hold it (`release_unloaded`). -/
def release (retention : Retention) (cache : Cache) (project : String) (slot : SlotId) : Cache :=
  if retention = .dropIdle ∧ cache.slot? project = some slot ∧ cache.handles slot = 2 ∧
      (cache.store slot).graph.isNone then cache.forget project
  else cache

/-- Ends a call: where it fails, its slot may be dropped with it. -/
def finish (retention : Retention) (cache : Cache) (call : Call) (result : Except Failure Loaded) :
    Cache :=
  match result with
  | .ok _ => cache.retire call
  | .error _ => (cache.release retention call.project call.slot).retire call

/-- Writes down what the load of a call has come to. -/
def settle (cache : Cache) (call : Call) : Cache :=
  cache.write call.slot fun slot => { slot with toLedger := slot.settle call.outcome }

/-- Ends the load of a call, and the call with it. -/
def conclude (retention : Retention) (cache : Cache) (call : Call) : Cache :=
  (cache.settle call).finish retention call call.outcome

/-- A poll of the loader of a call, which is pending so many times before it ends. -/
def pollLoader (retention : Retention) (cache : Cache) (call : Call) : Nat → Cache × Reply
  | 0 => (cache.conclude retention call, .done call.outcome)
  | left + 1 => (cache.advance call (.loading left), .pending)

/-- What a call does that has got the lock (`get_or_load` behind the wait for it). -/
def takeTurn (retention : Retention) (cache : Cache) (call : Call) : Turn → Cache × Progress
  | .takes loaded => (cache.finish retention call (.ok loaded), ⟨.done (.ok loaded), .unused⟩)
  | .shares failure =>
    (cache.finish retention call (.error failure), ⟨.done (.error failure), .unused⟩)
  | .loads =>
    let (cache, reply) := cache.pollLoader retention call call.load.suspensions
    (cache, ⟨reply, .started⟩)

/-- A poll of a call that owns the lock. -/
def pollOwner (retention : Retention) (cache : Cache) (call : Call) : Cache × Progress :=
  match call.stage with
  | .loading suspensions =>
    let (cache, reply) := cache.pollLoader retention call suspensions
    (cache, ⟨reply, .resumed⟩)
  | .waiting =>
    cache.takeTurn retention call ((cache.store call.slot).turn call.failuresSeen)

/-- Whether a call in flight owns the lock of its slot. -/
def owns (cache : Cache) (call : Call) : Bool :=
  (cache.store call.slot).lock.owner = some call.id

/-- A poll of a call in flight: it gets on only if it owns the lock. -/
def pollCall (retention : Retention) (cache : Cache) (call : Call) : Cache × Progress :=
  if cache.owns call then cache.pollOwner retention call else (cache, ⟨.pending, .unused⟩)

/-- A call that arrives and holds a slot: it notes the failures so far. -/
def newCall (cache : Cache) (project : String) (slot : SlotId) (id : CallId) (load : Load) : Call :=
  { id, load, failuresSeen := (cache.store slot).failures, stage := .waiting, project, slot }

/-- The arrival and first poll of a call that holds a slot (`get_or_load` behind the lookup of the
slot); a graph that is there is returned without the lock. -/
def arrive (retention : Retention) (cache : Cache) (project : String) (slot : SlotId) (id : CallId)
    (load : Load) : Cache × Progress :=
  match (cache.store slot).graph with
  | some loaded => (cache, ⟨.done (.ok loaded), .unused⟩)
  | none =>
    let call := cache.newCall project slot id load
    (cache.enroll call).pollCall retention call

/-- The arrival and first poll of a call for a project (`get_or_load`). -/
def call (retention : Retention) (cache : Cache) (project : String) (id : CallId) (load : Load) :
    Cache × Progress :=
  let (cache, slot) := cache.openSlot project
  cache.arrive retention project slot id load

def call? (cache : Cache) (id : CallId) : Option Call :=
  cache.calls.find? fun call => call.id = id

/-- A poll of a call in flight: the project that it is for, and what the poll does. -/
def poll (retention : Retention) (cache : Cache) (id : CallId) :
    Cache × Option (String × Progress) :=
  match cache.call? id with
  | none => (cache, none)
  | some call =>
    let (cache, progress) := cache.pollCall retention call
    (cache, some (call.project, progress))

/-- Drops a call; tells whether it was in flight. Its slot stays, also if nobody holds it now. -/
def cancel (cache : Cache) (id : CallId) : Cache × Bool :=
  match cache.call? id with
  | none => (cache, false)
  | some call => (cache.retire call, true)

/-- A call that nobody keeps waiting, with a loader that answers at once (`get_or_load`): the cache
after it, what it returns, and whether it started the loader. -/
def getOrLoad (cache : Cache) (project : String) (fetch : String → Except Failure Json) :
    Cache × Except Failure CallGraph × Bool :=
  let (cache, slot) := cache.openSlot project
  match (cache.store slot).graph with
  | some loaded => (cache, .ok loaded.graph, false)
  | none =>
    let call := cache.newCall project slot project ⟨fetch project, 0⟩
    ((cache.enroll call).conclude .dropIdle call, call.outcome.map Loaded.graph, true)

end Cache

end CallAtlas
