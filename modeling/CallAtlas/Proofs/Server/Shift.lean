import Mathlib.Logic.Relation
import CallAtlas.Proofs.Cache.Caller
import CallAtlas.Proofs.Cache.Stock
import CallAtlas.Proofs.Server.Course

/-!
# Shifts of the server

The work on the lines of a stream in any order. Each line has a task of its own: it is settled at
once, or it calls the cache for a graph and is polled until the call returns, while the tasks of
other lines get on, and others who use the cache as well. Whatever the order, the cache serves the
call of each task that waits, and the responses sent are those of the tasks that are done.
-/

namespace CallAtlas

/-- Where the work on a line stands. -/
inductive Handling where
  /-- Nothing was done yet. -/
  | due
  /-- A call for a graph is in flight. -/
  | waiting (call : CallId)
  /-- The work is done: what the cache returned, if it was called, and the response, if there is
  one. -/
  | done (graph? : Option (Except Failure CallGraph)) (response? : Option Response)

namespace Handling

def call? : Handling → Option CallId
  | .waiting call => some call
  | .due | .done .. => none

def response? : Handling → Option Response
  | .done _ response? => response?
  | .due | .waiting _ => none

def isDone : Handling → Bool
  | .done .. => true
  | .due | .waiting _ => false

/-- The handling of a line whose call was polled, by what the call returned. -/
def polled (call : CallId) (result : Cache → Except Failure CallGraph → Option Response)
    (cache : Cache) : Option (Except Failure Loaded) → Handling
  | none => .waiting call
  | some returned =>
    .done (some (returned.map Loaded.graph)) (result cache (returned.map Loaded.graph))

/-- The step of the cache that a task takes for a graph: a call of a name that no call in flight
has, and then polls of this call. -/
inductive Takes (supply : Supply) (cache : Cache) (project : String) (name : CallId) :
    Handling → Cache.Step → Prop where
  | call (load : Load) (fresh : ∀ call ∈ cache.calls, call.id ≠ name)
      (yields : supply.yields project load.outcome) :
    Takes supply cache project name .due (.call name project load)
  | poll : Takes supply cache project name (.waiting name) (.poll name)

end Handling

/-- Whether there is nothing to do for a message: the line is blank, or a request without an id. -/
def Message.isSilent : Message → Bool
  | .blank | .notification => true
  | .unreadable _ | .request .. => false

/-- A line of a stream, and where the work on it stands. -/
structure Task where
  line : String
  handling : Handling

namespace Task

/-- The task of a line that was just read. -/
def ofLine (line : String) : Task :=
  ⟨line, if (Message.ofLine line).isSilent then .done none none else .due⟩

/-- The course of the work on the line. -/
def course (navigator : Navigator) (task : Task) : Course (Option Response) :=
  (Message.ofLine task.line).course navigator

/-- The task at another stage of the work. -/
def put (task : Task) (handling : Handling) : Task :=
  { task with handling }

/-- One turn of a task: the cache and the handling after it. -/
inductive Turn (navigator : Navigator) (supply : Supply) (cache : Cache) (task : Task) :
    Cache → Handling → Prop where
  /-- The line needs no graph. -/
  | settles (response? : Option Response) (due : task.handling = .due)
      (course : task.course navigator = .ready response?) :
    Turn navigator supply cache task cache (.done none response?)
  /-- The line needs a graph, for which the cache is called or polled. -/
  | asks (project : String) (result : Cache → Except Failure CallGraph → Option Response)
      (course : task.course navigator = .needs project result) (name : CallId) (step : Cache.Step)
      (takes : task.handling.Takes supply cache project name step) :
    Turn navigator supply cache task (cache.act .dropIdle step).1
      (.polled name result (cache.act .dropIdle step).1
        ((cache.act .dropIdle step).2.bind fun event => event.progress.result?))

end Task

/-- The tasks of a stream, the cache that they share, and the responses in the order in which they
were sent. -/
structure Shift where
  cache : Cache
  tasks : List Task
  sent : List Response := []

namespace Shift

/-- The shift that begins with the lines of a stream. -/
def start (cache : Cache) (lines : List String) : Shift :=
  ⟨cache, lines.map Task.ofLine, []⟩

/-- The calls that tasks wait for. -/
def calls (shift : Shift) : List CallId :=
  shift.tasks.filterMap fun task => task.handling.call?

/-- The responses of the tasks that are done, in the order of their lines. -/
def responses (shift : Shift) : List Response :=
  shift.tasks.filterMap fun task => task.handling.response?

/-- How many tasks are not done. -/
def openTasks (shift : Shift) : Nat :=
  shift.tasks.countP fun task => !task.handling.isDone

/-- Every task is done. -/
def Finished (shift : Shift) : Prop :=
  ∀ task ∈ shift.tasks, task.handling.isDone = true

variable (navigator : Navigator) (supply : Supply)

/-- One step of a shift: a task has its turn, and its response is sent if it is done then, or others
who share the cache do something there that is not about the call of a task. -/
inductive Step : Shift → Shift → Prop where
  | works (cache after : Cache) (before behind : List Task) (task : Task) (handling : Handling)
      (sent : List Response) (turn : task.Turn navigator supply cache after handling) :
    Step ⟨cache, before ++ task :: behind, sent⟩
      ⟨after, before ++ task.put handling :: behind, sent ++ handling.response?.toList⟩
  | others (shift : Shift) (step : Cache.Step) (draws : step.DrawsFrom supply)
      (apart : ∀ name ∈ shift.calls, step.subject? ≠ some name) :
    Step shift { shift with cache := (shift.cache.act .dropIdle step).1 }

/-- Any number of steps of a shift. -/
abbrev Steps : Shift → Shift → Prop :=
  Relation.ReflTransGen (Step navigator supply)

end Shift

/-! ## What the cache knows of a task -/

section Fitting

variable (navigator : Navigator) (supply : Supply)

/-- Where a task can stand: a silent one is done from the start, a call that it waits for is served,
and its response is what its course comes to. -/
def Task.Fits (cache : Cache) (task : Task) : Prop :=
  match task.handling with
  | .due => (Message.ofLine task.line).isSilent = false
  | .waiting name =>
    ∃ project result, task.course navigator = .needs project result ∧
      (cache.lane project).serves name = true
  | .done graph? response? => (task.course navigator).Yields graph? response?

theorem Message.course_of_isSilent {message : Message} (silent : message.isSilent = true) :
    message.course navigator = .ready none := by
  cases message with
  | blank | notification => rfl
  | unreadable error | request id method params => cases silent

theorem Task.fits_ofLine (cache : Cache) (line : String) :
    (Task.ofLine line).Fits navigator cache := by
  unfold Task.ofLine
  split
  · rename_i silent
    show ((Message.ofLine line).course navigator).Yields none none
    rw [Message.course_of_isSilent navigator silent]
    exact .ready none
  · rename_i loud
    exact eq_false_of_ne_true loud

variable {navigator} {supply} {cache after : Cache} {task : Task} {handling : Handling}

/-- A task that waits needs a graph, and its call for it is served. -/
theorem Task.Fits.of_waiting (fits : task.Fits navigator cache) {name : CallId}
    (stands : task.handling = .waiting name) :
    ∃ project result, task.course navigator = .needs project result ∧
      (cache.lane project).serves name = true := by
  unfold Task.Fits at fits
  rw [stands] at fits
  exact fits

theorem Task.Fits.serves (fits : task.Fits navigator cache) {name : CallId}
    (stands : task.handling = .waiting name) {project : String}
    {result : Cache → Except Failure CallGraph → Option Response}
    (course : task.course navigator = .needs project result) :
    (cache.lane project).serves name = true := by
  obtain ⟨other, own, same, served⟩ := fits.of_waiting stands
  rw [course] at same
  cases same
  exact served

/-- A task that is done came to what its course comes to. -/
theorem Task.Fits.of_done (fits : task.Fits navigator cache)
    {graph? : Option (Except Failure CallGraph)} {response? : Option Response}
    (stands : task.handling = .done graph? response?) :
    (task.course navigator).Yields graph? response? := by
  unfold Task.Fits at fits
  rw [stands] at fits
  exact fits

/-- A task stands where it stood if the cache serves its call on. -/
theorem Task.Fits.of_serves (fits : task.Fits navigator cache)
    (serves : ∀ project name, task.handling.call? = some name →
      (cache.lane project).serves name = true → (after.lane project).serves name = true) :
    task.Fits navigator after := by
  unfold Task.Fits at fits ⊢
  cases stands : task.handling with
  | due | done graph? response? =>
    rw [stands] at fits
    exact fits
  | waiting name =>
    rw [stands] at fits
    obtain ⟨project, result, course, served⟩ := fits
    exact ⟨project, result, course, serves project name (by rw [stands]; rfl) served⟩

/-- The step that a task takes polls its call. -/
theorem Handling.Takes.polls (reachable : cache.Reachable) {project : String} {name : CallId}
    {step : Cache.Step} (takes : handling.Takes supply cache project name step)
    (served : ∀ call, handling = .waiting call → (cache.lane project).serves call = true) :
    step.DrawsFrom supply ∧
      ∃ progress, cache.Polls .dropIdle step name project progress := by
  cases takes with
  | call load fresh yields => exact ⟨yields, reachable.polls_call .dropIdle name project load⟩
  | poll => exact ⟨trivial, reachable.polls_poll .dropIdle (served name rfl)⟩

/-- What a turn of a task does. -/
inductive Task.Turned (navigator : Navigator) (supply : Supply) (cache : Cache) (task : Task) :
    Cache → Handling → Prop where
  | settles (response? : Option Response) (due : task.handling = .due)
      (course : task.course navigator = .ready response?) :
    Turned navigator supply cache task cache (.done none response?)
  | asks (project : String) (result : Cache → Except Failure CallGraph → Option Response)
      (course : task.course navigator = .needs project result) (name : CallId) (step : Cache.Step)
      (takes : task.handling.Takes supply cache project name step) (draws : step.DrawsFrom supply)
      (progress : Progress) (polls : cache.Polls .dropIdle step name project progress) :
    Turned navigator supply cache task (cache.act .dropIdle step).1
      (.polled name result (cache.act .dropIdle step).1 progress.result?)

theorem Task.Turn.turned (turn : task.Turn navigator supply cache after handling)
    (fits : task.Fits navigator cache) (reachable : cache.Reachable) :
    task.Turned navigator supply cache after handling := by
  cases turn with
  | settles response? due course => exact .settles response? due course
  | asks project result course name step takes =>
    obtain ⟨draws, progress, polls⟩ :=
      takes.polls reachable fun call stands => fits.serves stands course
    rw [polls.event]
    exact .asks project result course name step takes draws progress polls

namespace Task.Turned

variable (turned : task.Turned navigator supply cache after handling)

include turned

theorem reachable (before : cache.Reachable) : after.Reachable := by
  cases turned with
  | settles => exact before
  | asks project result course name step => exact before.act .dropIdle step

theorem isDone_eq_false : task.handling.isDone = false := by
  cases turned with
  | settles response? due => rw [due]; rfl
  | asks project result course name step takes =>
    generalize task.handling = handling at takes
    cases takes <;> rfl

/-- The task may wait for a call that is new. -/
theorem call?_cases {name : CallId} (waits : handling.call? = some name) :
    task.handling.call? = some name ∨ ∀ call ∈ cache.calls, call.id ≠ name := by
  cases turned with
  | settles => cases waits
  | asks project result course own step takes draws progress polls =>
    obtain rfl : own = name := by
      cases returned : progress.result? with
      | none =>
        rw [returned] at waits
        exact Option.some.inj waits
      | some result =>
        rw [returned] at waits
        cases waits
    generalize task.handling = handling at takes
    cases takes with
    | call load fresh yields => exact .inr fresh
    | poll => exact .inl rfl

/-- The cache serves the calls of all others on. -/
theorem serves (before : cache.Reachable) {project : String} {name : CallId}
    (different : task.handling.call? ≠ some name)
    (served : (cache.lane project).serves name = true) :
    (after.lane project).serves name = true := by
  cases turned with
  | settles => exact served
  | asks aim result course own step takes draws progress polls =>
    refine before.serves_act .dropIdle served ?_
    rw [polls.subject]
    rintro ⟨⟩
    generalize task.handling = handling at takes different
    cases takes with
    | call load fresh yields =>
      obtain ⟨call, member, -, same⟩ := Cache.serves_lane_iff.mp served
      exact fresh call member same
    | poll => exact different rfl

theorem fits : (task.put handling).Fits navigator after := by
  cases turned with
  | settles response? due course =>
    show (task.course navigator).Yields none response?
    rw [course]
    exact .ready response?
  | asks project result course name step takes draws progress polls =>
    cases returned : progress.result? with
    | none => exact ⟨project, result, course, polls.served returned⟩
    | some loaded =>
      show (task.course navigator).Yields (some (loaded.map Loaded.graph)) _
      rw [course]
      exact .needs project result _ _

end Task.Turned

end Fitting

/-! ## Every order of work -/

namespace Shift

/-- What holds of every shift that works on these lines. -/
structure Sound (navigator : Navigator) (lines : List String) (shift : Shift) : Prop where
  lines : shift.tasks.map Task.line = lines
  reachable : shift.cache.Reachable
  fits : ∀ task ∈ shift.tasks, task.Fits navigator shift.cache
  /-- No two tasks wait for one call. -/
  distinct : shift.calls.Nodup
  /-- The responses sent are those of the tasks that are done, in any order. -/
  sent : shift.sent.Perm shift.responses

variable {navigator : Navigator} {supply : Supply} {lines : List String}

theorem sound_start {cache : Cache} (reachable : cache.Reachable) (navigator : Navigator)
    (lines : List String) : (start cache lines).Sound navigator lines where
  lines := by
    show (lines.map Task.ofLine).map Task.line = lines
    rw [List.map_map]
    exact List.map_id lines
  reachable := reachable
  fits := by
    intro task member
    obtain ⟨line, -, rfl⟩ := List.mem_map.mp member
    exact Task.fits_ofLine navigator cache line
  distinct := by
    have nobody : (start cache lines).calls = [] := by
      refine List.filterMap_eq_nil_iff.mpr fun task member => ?_
      obtain ⟨line, -, rfl⟩ := List.mem_map.mp member
      unfold Task.ofLine
      split <;> rfl
    rw [nobody]
    exact List.nodup_nil
  sent := by
    have nothing : (start cache lines).responses = [] := by
      refine List.filterMap_eq_nil_iff.mpr fun task member => ?_
      obtain ⟨line, -, rfl⟩ := List.mem_map.mp member
      unfold Task.ofLine
      split <;> rfl
    rw [nothing]
    exact .nil

/-- A call that a task waits for is in flight. -/
theorem Sound.inFlight {shift : Shift} (sound : shift.Sound navigator lines) {name : CallId}
    (member : name ∈ shift.calls) : ∃ call ∈ shift.cache.calls, call.id = name := by
  obtain ⟨task, present, waits⟩ := List.mem_filterMap.mp member
  cases stands : task.handling with
  | due | done => rw [stands] at waits; cases waits
  | waiting call =>
    rw [stands] at waits
    obtain rfl : call = name := Option.some.inj waits
    obtain ⟨project, -, -, served⟩ := (sound.fits task present).of_waiting stands
    obtain ⟨found, inFlight, -, same⟩ := Cache.serves_lane_iff.mp served
    exact ⟨found, inFlight, same⟩

/-- A turn of one task leaves all others as they were. -/
theorem Sound.works {cache after : Cache} {before behind : List Task} {task : Task}
    {handling : Handling} {sent : List Response}
    (sound : (Shift.mk cache (before ++ task :: behind) sent).Sound navigator lines)
    (turned : task.Turned navigator supply cache after handling) :
    (Shift.mk after (before ++ task.put handling :: behind)
      (sent ++ handling.response?.toList)).Sound navigator lines := by
  have calls : ((task.handling.call?).toList ++
      (before ++ behind).filterMap fun task => task.handling.call?).Nodup :=
    (perm_filterMap_middle _ before behind task).nodup_iff.mp sound.distinct
  obtain ⟨-, others, apart⟩ := List.nodup_append.mp calls
  refine ⟨?_, turned.reachable sound.reachable, ?_, ?_, ?_⟩
  · rw [← sound.lines]
    simp [Task.put]
  · have still : ∀ other ∈ before ++ behind, other.Fits navigator after := by
      intro other member
      have present : other ∈ before ++ task :: behind :=
        List.perm_middle.mem_iff.mpr (List.mem_cons_of_mem _ member)
      refine (sound.fits other present).of_serves fun project name waits => ?_
      refine turned.serves sound.reachable fun same => ?_
      exact apart name (Option.mem_toList.mpr same) name
        (List.mem_filterMap.mpr ⟨other, member, waits⟩) rfl
    intro other member
    rcases List.mem_cons.mp (List.perm_middle.mem_iff.mp member) with rfl | member
    · exact turned.fits
    · exact still other member
  · refine (perm_filterMap_middle _ before behind (task.put handling)).nodup_iff.mpr ?_
    refine List.nodup_append.mpr ⟨?_, others, ?_⟩
    · cases (task.put handling).handling.call? with
      | none => exact List.nodup_nil
      | some name => exact List.nodup_singleton name
    · rintro name own _ member rfl
      rcases turned.call?_cases (Option.mem_toList.mp own) with same | fresh
      · exact apart name (Option.mem_toList.mpr same) name member rfl
      · have present : name ∈ (Shift.mk cache (before ++ task :: behind) sent).calls :=
          (perm_filterMap_middle _ before behind task).mem_iff.mpr (List.mem_append_right _ member)
        obtain ⟨call, inFlight, same⟩ := sound.inFlight present
        exact fresh call inFlight same
  · have quiet : task.handling.response? = none := by
      have undone := turned.isDone_eq_false
      cases stands : task.handling with
      | due | waiting => rfl
      | done => rw [stands] at undone; cases undone
    have told := sound.sent.trans (perm_filterMap_middle _ before behind task)
    rw [quiet, Option.toList_none, List.nil_append] at told
    have tells := perm_filterMap_middle (fun task : Task => task.handling.response?) before behind
      (task.put handling)
    exact List.perm_append_comm.trans ((told.append_left _).trans tells.symm)

/-- A step leaves a sound shift. -/
theorem Sound.step {shift after : Shift} (sound : shift.Sound navigator lines)
    (step : Step navigator supply shift after) : after.Sound navigator lines := by
  cases step with
  | works cache after before behind task handling sent turn =>
    have fits := sound.fits task (List.mem_append_right _ List.mem_cons_self)
    exact sound.works (turn.turned fits sound.reachable)
  | others shift step draws apart =>
    refine ⟨sound.lines, sound.reachable.act .dropIdle step, ?_, sound.distinct, sound.sent⟩
    intro task member
    refine (sound.fits task member).of_serves fun project name waits served => ?_
    have present : name ∈ shift.calls := List.mem_filterMap.mpr ⟨task, member, waits⟩
    exact sound.reachable.serves_act .dropIdle served (apart name present)

/-- Any number of steps leaves a sound shift. -/
theorem Sound.steps {shift after : Shift} (sound : shift.Sound navigator lines)
    (steps : Steps navigator supply shift after) : after.Sound navigator lines := by
  induction steps with
  | refl => exact sound
  | tail steps step ih => exact ih.step step

end Shift

end CallAtlas
