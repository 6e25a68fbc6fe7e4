import CallAtlas.Proofs.Server.Completion
import CallAtlas.Proofs.Server.Stream

/-!
# Bad lines

What lines that are no requests do to the work on all others. A line that is read and is no request
is refused, and leaves everything else as it is without it: what the other lines come to, in any
order of work, is what they come to in a stream that holds only them. A line that is not UTF-8 is
never read. The server fails there, wherever the work on the lines in front of it stands, and
neither the line nor any behind it is worked on.
-/

namespace CallAtlas

/-- Whether a line that can be seen is no request. -/
def Message.isUnreadable : Message → Bool
  | .unreadable _ => true
  | .blank | .notification | .request .. => false

/-- Whether a response is about a line that is no request. -/
def Response.isUnreadable : Response → Bool
  | .unreadable _ => true
  | .reply .. => false

/-- Whether the line of a task is no request. -/
def Task.isUnreadable (task : Task) : Bool :=
  (Message.ofLine task.line).isUnreadable

/-- The lines but for those that are no requests. -/
def readable (lines : List String) : List String :=
  lines.filter fun line => !(Message.ofLine line).isUnreadable

variable {navigator : Navigator} {supply : Supply}

variable (navigator) in
/-- A line that is no request needs nothing for its response. -/
theorem Message.course_of_isUnreadable {message : Message} (bad : message.isUnreadable = true) :
    ∃ error, message.course navigator = .ready (some (.unreadable error)) := by
  cases message with
  | unreadable error => exact ⟨error, rfl⟩
  | blank | notification | request => cases bad

/-- Only a line that is no request is refused as one. -/
theorem Message.isUnreadable_of_yields {message : Message}
    {graph? : Option (Except Failure CallGraph)} {response : Response}
    (yields : (message.course navigator).Yields graph? (some response)) :
    response.isUnreadable = message.isUnreadable := by
  cases message with
  | blank | notification => cases yields
  | unreadable error =>
    cases yields with
    | ready => rfl
  | request id method params =>
    simp only [course] at yields
    cases found : Errand.ofMethod? method params with
    | error fault =>
      rw [found] at yields
      cases yields with
      | ready => rfl
    | ok errand =>
      rw [found] at yields
      obtain ⟨result, -, same⟩ := yields.of_map
      obtain rfl := Option.some.inj same
      rfl

namespace Task

variable {cache after : Cache} {task : Task} {handling : Handling}

theorem isUnreadable_put (task : Task) (handling : Handling) :
    (task.put handling).isUnreadable = task.isUnreadable :=
  rfl

/-- What a task has come to after a turn is what its course can come to. -/
theorem Turn.yields (turn : task.Turn navigator supply cache after handling) {response : Response}
    (told : handling.response? = some response) :
    ∃ graph?, (task.course navigator).Yields graph? (some response) := by
  cases turn with
  | settles response? due course =>
    obtain rfl : response? = some response := told
    exact ⟨none, by rw [course]; exact .ready _⟩
  | asks project result course name step takes =>
    generalize ((cache.act .dropIdle step).2.bind fun event => event.progress.result?) = returned
      at told
    cases returned with
    | none => cases told
    | some loaded =>
      have same : result _ (loaded.map Loaded.graph) = some response := told
      exact ⟨some (loaded.map Loaded.graph), by rw [course, ← same]; exact .needs ..⟩

/-- Of the responses of a turn, those that are no refusals: none if the line of the task is no
request, and otherwise all. -/
theorem Turn.replies_readable (turn : task.Turn navigator supply cache after handling) :
    (handling.response?.toList.filter fun response => !response.isUnreadable) =
      if task.isUnreadable then [] else handling.response?.toList := by
  have told (response : Response) (own : response ∈ handling.response?.toList) :
      response.isUnreadable = task.isUnreadable := by
    obtain ⟨graph?, yields⟩ := turn.yields (Option.mem_toList.mp own)
    exact Message.isUnreadable_of_yields yields
  cases bad : task.isUnreadable with
  | true => exact List.filter_eq_nil_iff.mpr fun response own => by simp [told response own, bad]
  | false => exact List.filter_eq_self.mpr fun response own => by simp [told response own, bad]

/-- The turn of a line that is no request leaves the cache alone. -/
theorem Turn.of_isUnreadable (turn : task.Turn navigator supply cache after handling)
    (bad : task.isUnreadable = true) : after = cache := by
  obtain ⟨error, ready⟩ := Message.course_of_isUnreadable navigator bad
  cases turn with
  | settles => rfl
  | asks project result course => cases ready.symm.trans course

end Task

namespace Shift

/-- The shift but for the lines that are no requests, and the responses that refuse them. -/
def readable (shift : Shift) : Shift :=
  ⟨shift.cache, shift.tasks.filter fun task => !task.isUnreadable,
    shift.sent.filter fun response => !response.isUnreadable⟩

/-- Every line that is no request has been refused. -/
def Refused (shift : Shift) : Prop :=
  ∀ task ∈ shift.tasks, task.isUnreadable = true → task.handling.isDone = true

theorem readable_start (cache : Cache) (lines : List String) :
    (start cache lines).readable = start cache (CallAtlas.readable lines) := by
  show Shift.mk cache ((lines.map Task.ofLine).filter fun task => !task.isUnreadable) [] =
    Shift.mk cache ((CallAtlas.readable lines).map Task.ofLine) []
  rw [CallAtlas.readable, List.filter_map]
  simp only [Function.comp_def, Task.isUnreadable, Task.ofLine]

theorem lines_readable (shift : Shift) :
    shift.readable.tasks.map Task.line = CallAtlas.readable (shift.tasks.map Task.line) := by
  rw [CallAtlas.readable, List.filter_map]
  simp only [readable, Function.comp_def, Task.isUnreadable]

theorem mem_readable {shift : Shift} {task : Task} :
    task ∈ shift.readable.tasks ↔ task ∈ shift.tasks ∧ task.isUnreadable = false := by
  simp [readable]

/-! ## A shift without bad lines -/

/-- A step of a shift is a step of the shift without bad lines, or it is not seen there. -/
theorem Step.readable {shift after : Shift} (step : Step navigator supply shift after) :
    Step navigator supply shift.readable after.readable ∨ after.readable = shift.readable := by
  cases step with
  | works cache after before behind task handling sent turn =>
    have replies := turn.replies_readable
    cases bad : task.isUnreadable with
    | true =>
      right
      obtain rfl := turn.of_isUnreadable bad
      rw [bad, if_pos rfl] at replies
      simp [Shift.readable, Task.isUnreadable_put, bad, replies]
    | false =>
      left
      rw [bad, if_neg Bool.false_ne_true] at replies
      simp only [Shift.readable, List.filter_append, List.filter_cons, Task.isUnreadable_put, bad,
        Bool.not_false, if_true, replies]
      exact .works _ _ _ _ task handling _ turn
  | others shift step draws apart =>
    refine .inl (.others shift.readable step draws fun name member => ?_)
    obtain ⟨task, present, waits⟩ := List.mem_filterMap.mp member
    exact apart name (List.mem_filterMap.mpr ⟨task, (mem_readable.mp present).1, waits⟩)

/-- What happens in a shift happens without the bad lines as well. -/
theorem Steps.readable {shift after : Shift} (steps : Steps navigator supply shift after) :
    Steps navigator supply shift.readable after.readable := by
  induction steps with
  | refl => exact .refl
  | tail steps step ih =>
    rcases step.readable with seen | unseen
    · exact ih.tail seen
    · rw [unseen]
      exact ih

/-! ## A shift with bad lines again -/

variable {lines : List String}

/-- A task that needs no graph and is done has come to what is ready for it. -/
theorem Sound.handling_of_ready {shift : Shift} (sound : shift.Sound navigator lines) {task : Task}
    (member : task ∈ shift.tasks) (done : task.handling.isDone = true)
    {response? : Option Response} (ready : task.course navigator = .ready response?) :
    task.handling = .done none response? := by
  cases stands : task.handling with
  | due | waiting => rw [stands] at done; cases done
  | done graph? told =>
    have yields := (sound.fits task member).of_done stands
    rw [ready] at yields
    cases yields with
    | ready => rfl

/-- A server can leave a stream with the work like this, and with this failure, if there is one.
What was sent was handed to the writer by then; a failure does not wait until it is written. -/
structure Ends (navigator : Navigator) (supply : Supply) (cache : Cache) (bytes : List UInt8)
    (failure? : Option Failure) (shift : Shift) : Prop where
  /-- There is a task for each line that was read, and no other. -/
  reads : ReadsTo (streamLines bytes) (shift.tasks.map Task.line) failure?
  /-- The tasks were worked on in some order, with others who use the cache. -/
  worked : Steps navigator supply (.start cache (shift.tasks.map Task.line)) shift
  /-- Whoever reads a line that is no request refuses it before the next line is read. -/
  refused : shift.Refused
  /-- At the end of a stream the server waits for all tasks. -/
  finished : failure? = none → shift.Finished

variable {cache : Cache} {bytes kept : List UInt8} {lines : List String}
  {failure? : Option Failure}

/-- Without the bad lines, a server can leave the stream with the same work on the others. -/
theorem Ends.readable {shift : Shift} (ends : shift.Ends navigator supply cache bytes failure?)
    (reads : ReadsTo (streamLines bytes) lines failure?)
    (without : ReadsTo (streamLines kept) (CallAtlas.readable lines) failure?) :
    shift.readable.Ends navigator supply cache kept failure? := by
  obtain ⟨rfl, -⟩ := ends.reads.unique reads
  have steps := ends.worked.readable
  rw [readable_start, ← lines_readable] at steps
  rw [← lines_readable] at without
  refine ⟨without, steps, ?_, ?_⟩
  · intro task member bad
    rw [(mem_readable.mp member).2] at bad
    cases bad
  · intro whole task member
    exact ends.finished whole task (mem_readable.mp member).1

/-- A server can leave a stream with all work done. -/
theorem Finished.ends {shift : Shift} (finished : shift.Finished) (reachable : cache.Reachable)
    (worked : Steps navigator supply (.start cache lines) shift)
    (reads : ReadsTo (streamLines bytes) lines failure?) :
    shift.Ends navigator supply cache bytes failure? := by
  have named := ((sound_start reachable navigator lines).steps worked).lines
  exact ⟨by rw [named]; exact reads, by rw [named]; exact worked,
    fun task member _ => finished task member, fun _ => finished⟩

/-- A line that is no request has been refused, and its task has done nothing else. -/
theorem Ends.refuses {shift : Shift} (ends : shift.Ends navigator supply cache bytes failure?)
    (reachable : cache.Reachable) {task : Task} (member : task ∈ shift.tasks)
    (bad : task.isUnreadable = true) :
    ∃ response, task.handling = .done none (some response) ∧ response.Refuses := by
  have sound := (sound_start reachable navigator _).steps ends.worked
  obtain ⟨error, ready⟩ := Message.course_of_isUnreadable navigator bad
  have done := ends.refused task member bad
  exact ⟨_, sound.handling_of_ready member done ready, Response.refuses_unreadable error⟩

end Shift

namespace Navigator

end Navigator

end CallAtlas
