import CallAtlas.Cache.Run

/-!
# Lanes

What the calls for one project see of a cache: the ledger of the project, and the calls in flight
for it in the order of their arrival, the first of which owns the lock. Nothing of slots, handles
and locks is left. A lane gets on by itself: each step of a run is a step of every lane, and the
step of a lane depends on nothing but the lane.
-/

namespace CallAtlas.Cache

/-- What the calls for one project see of a cache. -/
structure Lane extends Ledger where
  /-- The calls in flight; the first owns the lock. -/
  queue : List Inquiry := []

namespace Lane

/-- The lane that a call has left with a result: after a failure it starts anew if nobody is left
and there is no graph. -/
def depart (retention : Retention) (lane : Lane) : Except Failure Loaded → Lane
  | .ok _ => lane
  | .error _ =>
    if retention = .dropIdle ∧ lane.graph.isNone ∧ lane.queue = [] then {} else lane

/-- A poll of the loader of the first call, with the calls behind it. -/
def pollLoader (retention : Retention) (ledger : Ledger) (first : Inquiry)
    (behind : List Inquiry) : Nat → Lane × Reply
  | 0 =>
    (Lane.depart retention ⟨ledger.settle first.outcome, behind⟩ first.outcome,
      .done first.outcome)
  | left + 1 => (⟨ledger, { first with stage := .loading left } :: behind⟩, .pending)

/-- What the first call does when it has got the lock, with the calls behind it. -/
def takeTurn (retention : Retention) (ledger : Ledger) (first : Inquiry)
    (behind : List Inquiry) : Turn → Lane × Progress
  | .takes loaded => (⟨ledger, behind⟩, ⟨.done (.ok loaded), .unused⟩)
  | .shares failure =>
    (Lane.depart retention ⟨ledger, behind⟩ (.error failure), ⟨.done (.error failure), .unused⟩)
  | .loads =>
    let (lane, reply) := pollLoader retention ledger first behind first.load.suspensions
    (lane, ⟨reply, .started⟩)

/-- A poll of the first call, with the calls behind it. -/
def pollFirst (retention : Retention) (ledger : Ledger) (first : Inquiry)
    (behind : List Inquiry) : Lane × Progress :=
  match first.stage with
  | .loading suspensions =>
    let (lane, reply) := pollLoader retention ledger first behind suspensions
    (lane, ⟨reply, .resumed⟩)
  | .waiting => takeTurn retention ledger first behind (ledger.turn first.failuresSeen)

/-- A poll of a call: only the first gets on. -/
def poll (retention : Retention) (lane : Lane) (id : CallId) : Lane × Progress :=
  match lane.queue with
  | [] => (lane, ⟨.pending, .unused⟩)
  | first :: behind =>
    if first.id = id then pollFirst retention lane.toLedger first behind
    else (lane, ⟨.pending, .unused⟩)

/-- The lane with a call behind all others, which notes the failures so far. -/
def enqueue (lane : Lane) (id : CallId) (load : Load) : Lane :=
  { lane with queue := lane.queue ++ [⟨id, load, lane.failures, .waiting⟩] }

/-- The arrival and first poll of a call. -/
def arrive (retention : Retention) (lane : Lane) (id : CallId) (load : Load) : Lane × Progress :=
  match lane.graph with
  | some loaded => (lane, ⟨.done (.ok loaded), .unused⟩)
  | none => (lane.enqueue id load).poll retention id

/-- The lane without a call. -/
def leave (lane : Lane) (id : CallId) : Lane :=
  { lane with queue := lane.queue.filter fun inquiry => inquiry.id ≠ id }

/-- Whether a call is in flight here. -/
def serves (lane : Lane) (id : CallId) : Bool :=
  lane.queue.any fun inquiry => inquiry.id = id

/-- The lane of a project after a step, and what the step does if it is a poll of a call here. -/
def act (retention : Retention) (lane : Lane) (project : String) : Step → Lane × Option Progress
  | .call id other load =>
    if other = project then
      let (lane, progress) := (lane.leave id).arrive retention id load
      (lane, some progress)
    else (lane.leave id, none)
  | .poll id =>
    if lane.serves id then
      let (lane, progress) := lane.poll retention id
      (lane, some progress)
    else (lane, none)
  | .cancel id => (lane.leave id, none)
  | .get _ => (lane, none)

/-- The lane of a project after several steps. -/
def acts (retention : Retention) (lane : Lane) (project : String) (steps : List Step) : Lane :=
  steps.foldl (fun lane step => (lane.act retention project step).1) lane

section Acting

variable {retention : Retention} {lane : Lane} {id : CallId} {first : Inquiry}
  {behind : List Inquiry}

theorem leave_of_missing (missing : ∀ inquiry ∈ lane.queue, inquiry.id ≠ id) :
    lane.leave id = lane := by
  unfold leave
  rw [List.filter_eq_self.mpr (by simpa using missing)]

theorem poll_of_queue_nil (empty : lane.queue = []) :
    lane.poll retention id = (lane, ⟨.pending, .unused⟩) := by
  rw [poll, empty]

theorem poll_first (ledger : Ledger) :
    (Lane.mk ledger (first :: behind)).poll retention first.id =
      pollFirst retention ledger first behind :=
  if_pos rfl

theorem poll_other (line : lane.queue = first :: behind) (different : first.id ≠ id) :
    lane.poll retention id = (lane, ⟨.pending, .unused⟩) := by
  rw [poll, line]
  exact if_neg different

theorem act_call_own (project : String) (load : Load) :
    lane.act retention project (.call id project load) =
      (((lane.leave id).arrive retention id load).1,
        some ((lane.leave id).arrive retention id load).2) :=
  if_pos rfl

theorem act_call_other {project other : String} (elsewhere : other ≠ project) (load : Load) :
    lane.act retention project (.call id other load) = (lane.leave id, none) :=
  if_neg elsewhere

theorem act_poll_own (project : String) (served : lane.serves id = true) :
    lane.act retention project (.poll id) =
      ((lane.poll retention id).1, some (lane.poll retention id).2) :=
  if_pos served

theorem act_poll_other (project : String) (elsewhere : ¬ lane.serves id = true) :
    lane.act retention project (.poll id) = (lane, none) :=
  if_neg elsewhere

/-- What a step does to a lane, and the poll of a call of the lane that it is. -/
inductive Acted (retention : Retention) (lane : Lane) (project : String) :
    Step → Lane × Option Progress → Prop where
  | arrives (id : CallId) (load : Load) :
    Acted retention lane project (.call id project load)
      (((lane.leave id).arrive retention id load).1,
        some ((lane.leave id).arrive retention id load).2)
  | passes (id : CallId) (other : String) (load : Load) (elsewhere : other ≠ project) :
    Acted retention lane project (.call id other load) (lane.leave id, none)
  | polls (id : CallId) (served : lane.serves id = true) :
    Acted retention lane project (.poll id)
      ((lane.poll retention id).1, some (lane.poll retention id).2)
  | misses (id : CallId) (elsewhere : ¬ lane.serves id = true) :
    Acted retention lane project (.poll id) (lane, none)
  | cancels (id : CallId) : Acted retention lane project (.cancel id) (lane.leave id, none)
  | asks (other : String) : Acted retention lane project (.get other) (lane, none)

/-- A step does one of these things. -/
theorem acted (retention : Retention) (lane : Lane) (project : String) (step : Step) :
    Acted retention lane project step (lane.act retention project step) := by
  cases step with
  | call id other load =>
    by_cases same : other = project
    · subst same
      rw [act_call_own]
      exact .arrives id load
    · rw [act_call_other same]
      exact .passes id other load same
  | poll id =>
    by_cases served : lane.serves id = true
    · rw [act_poll_own project served]
      exact .polls id served
    · rw [act_poll_other project served]
      exact .misses id served
  | cancel id => exact .cancels id
  | get other => exact .asks other

end Acting

end Lane

/-- The calls in flight for a project in the order of their arrival. -/
def callsFor (cache : Cache) (project : String) : List Call :=
  cache.calls.filter fun call => call.project = project

/-- What the loads of a project have come to. -/
def ledger (cache : Cache) (project : String) : Ledger :=
  ((cache.slot? project).map fun slot => (cache.store slot).toLedger).getD {}

/-- The lane of a project. -/
def lane (cache : Cache) (project : String) : Lane :=
  ⟨cache.ledger project, (cache.callsFor project).map Call.toInquiry⟩

end CallAtlas.Cache
