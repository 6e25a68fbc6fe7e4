import Mathlib.Data.Fintype.EquivFin
import CallAtlas.Proofs.Server.Shift

/-!
# Shifts that are completed

No shift gets stuck: as long as a task is not done, some steps bring one more task to its end, be it
that others are polled first whose calls stand in front. Work in the order of the lines, with a
loader that answers at once, is one way to complete a shift.
-/

namespace CallAtlas

namespace Shift

variable {navigator : Navigator} {supply : Supply} {lines : List String}

/-- There is always a name that no call in flight has. -/
theorem exists_fresh (cache : Cache) : ∃ name, ∀ call ∈ cache.calls, call.id ≠ name := by
  obtain ⟨name, absent⟩ :=
    Infinite.exists_notMem_finset (cache.calls.map fun call => call.id).toFinset
  refine ⟨name, fun call member same => absent ?_⟩
  exact List.mem_toFinset.mpr (List.mem_map.mpr ⟨call, member, same⟩)

section Turns

variable {cache : Cache} {before behind : List Task} {task : Task} {sent : List Response}

/-- A task that is done now is one less. -/
theorem openTasks_put_done {after : Cache} {told : List Response}
    (undone : task.handling.isDone = false) {handling : Handling}
    (done : handling.isDone = true) :
    (Shift.mk after (before ++ task.put handling :: behind) told).openTasks <
      (Shift.mk cache (before ++ task :: behind) sent).openTasks := by
  simp [openTasks, Task.put, undone, done]

/-- A task that calls or polls the cache is done, or waits for its call. -/
theorem exists_step_of_takes {project : String}
    {result : Cache → Except Failure CallGraph → Option Response}
    (course : task.course navigator = .needs project result) {name : CallId} {step : Cache.Step}
    (takes : task.handling.Takes supply cache project name step) {progress : Progress}
    (polls : cache.Polls .dropIdle step name project progress) :
    ∃ after, Step navigator supply ⟨cache, before ++ task :: behind, sent⟩ after ∧
      (after.openTasks < (Shift.mk cache (before ++ task :: behind) sent).openTasks ∨
        after = ⟨(cache.act .dropIdle step).1, before ++ task.put (.waiting name) :: behind,
          sent⟩) := by
  have turn := Task.Turn.asks project result course name step takes
  have undone : task.handling.isDone = false := by
    generalize task.handling = handling at takes
    cases takes <;> rfl
  rw [polls.event] at turn
  refine ⟨_, .works cache _ before behind task _ sent turn, ?_⟩
  cases returned : progress.result? with
  | none =>
    right
    rw [Option.bind_some, returned]
    simp [Handling.polled, Handling.response?]
  | some loaded =>
    left
    rw [Option.bind_some, returned]
    exact openTasks_put_done undone rfl

end Turns

/-- A poll of a call that a task waits for brings the task to its end or changes only the cache. -/
theorem Sound.poll_own {shift : Shift} (sound : shift.Sound navigator lines) {name : CallId}
    (member : name ∈ shift.calls) :
    ∃ after, Step navigator supply shift after ∧
      (after.openTasks < shift.openTasks ∨
        after = { shift with cache := (shift.cache.act .dropIdle (.poll name)).1 }) := by
  obtain ⟨⟨line, handling⟩, present, waits⟩ := List.mem_filterMap.mp member
  obtain ⟨before, behind, split⟩ := List.append_of_mem present
  obtain ⟨cache, tasks, sent⟩ := shift
  obtain rfl : tasks = before ++ ⟨line, handling⟩ :: behind := split
  have fits := sound.fits _ present
  cases handling with
  | due | done => cases waits
  | waiting call =>
    obtain rfl : call = name := Option.some.inj waits
    obtain ⟨project, result, course, served⟩ := fits
    obtain ⟨progress, polls⟩ := sound.reachable.polls_poll .dropIdle served
    exact exists_step_of_takes course .poll polls

/-- A task that waits can be brought to its end: whoever stands in front is polled. -/
theorem Sound.exists_steps_of_waiting {shift : Shift} (sound : shift.Sound navigator lines)
    {line : String} {name : CallId} (member : ⟨line, .waiting name⟩ ∈ shift.tasks) :
    ∃ after, Steps navigator supply shift after ∧ after.openTasks < shift.openTasks := by
  obtain ⟨project, result, course, -⟩ := sound.fits _ member
  induction budget : (shift.cache.lane project).budget using Nat.strong_induction_on
    generalizing shift with
  | _ left ih =>
    have served : (shift.cache.lane project).serves name = true :=
      (sound.fits _ member).serves rfl course
    obtain ⟨first, -, less⟩ := sound.reachable.poll_first .dropIdle served
    rw [budget] at less
    -- The call in front is that of a task, or one of the others who share the cache.
    have moves : ∃ after, Step navigator supply shift after ∧
        (after.openTasks < shift.openTasks ∨
          after = { shift with cache := (shift.cache.act .dropIdle (.poll first)).1 }) := by
      by_cases own : first ∈ shift.calls
      · exact sound.poll_own own
      · refine ⟨_, .others shift (.poll first) trivial ?_, .inr rfl⟩
        rintro call present ⟨⟩
        exact own present
    obtain ⟨after, step, done | rfl⟩ := moves
    · exact ⟨after, .single step, done⟩
    · obtain ⟨last, steps, done⟩ := ih _ less (sound.step step) member rfl
      exact ⟨last, .head step steps, done⟩

/-- As long as a task is not done, one more can be brought to its end. -/
theorem Sound.exists_steps_of_open {shift : Shift} (sound : shift.Sound navigator lines)
    {task : Task} (member : task ∈ shift.tasks) (undone : task.handling.isDone = false) :
    ∃ after, Steps navigator supply shift after ∧ after.openTasks < shift.openTasks := by
  obtain ⟨line, handling⟩ := task
  cases handling with
  | done => cases undone
  | waiting name => exact sound.exists_steps_of_waiting member
  | due =>
    obtain ⟨before, behind, split⟩ := List.append_of_mem member
    obtain ⟨cache, tasks, sent⟩ := shift
    obtain rfl : tasks = before ++ ⟨line, .due⟩ :: behind := split
    cases course : (Task.mk line .due).course navigator with
    | ready response? =>
      refine ⟨_, .single (.works cache cache before behind _ _ sent
        (.settles response? rfl course)), ?_⟩
      exact openTasks_put_done rfl rfl
    | needs project result =>
      obtain ⟨name, fresh⟩ := exists_fresh cache
      obtain ⟨outcome, yields⟩ := supply.total project
      obtain ⟨progress, polls⟩ :=
        sound.reachable.polls_call .dropIdle name project ⟨outcome, 0⟩
      obtain ⟨after, step, done | rfl⟩ := exists_step_of_takes course
        (.call ⟨outcome, 0⟩ fresh yields) polls
      · exact ⟨after, .single step, done⟩
      · have waits := sound.step step
        have present : ⟨line, .waiting name⟩ ∈ before ++ (⟨line, .waiting name⟩ : Task) :: behind :=
          List.mem_append_right _ List.mem_cons_self
        obtain ⟨last, steps, less⟩ := waits.exists_steps_of_waiting present
        refine ⟨last, .head step steps, Nat.lt_of_lt_of_eq less ?_⟩
        simp [openTasks, Task.put, Handling.isDone]

/-- Every shift can be completed. -/
theorem Sound.exists_finished {shift : Shift} (sound : shift.Sound navigator lines) :
    ∃ after, Steps navigator supply shift after ∧ after.Finished := by
  induction left : shift.openTasks using Nat.strong_induction_on generalizing shift with
  | _ left ih =>
    by_cases finished : shift.Finished
    · exact ⟨shift, .refl, finished⟩
    · obtain ⟨task, member, undone⟩ : ∃ task ∈ shift.tasks, ¬ task.handling.isDone = true := by
        simpa [Finished] using finished
      obtain ⟨next, steps, less⟩ :
          ∃ next, Steps navigator supply shift next ∧ next.openTasks < shift.openTasks :=
        sound.exists_steps_of_open member (eq_false_of_ne_true undone)
      obtain ⟨after, further, finished⟩ := ih _ (by omega) (sound.steps steps) rfl
      exact ⟨after, steps.trans further, finished⟩

/-! ## Work in the order of the lines -/

section InOrder

variable (navigator) (load : Loader) {cache : Cache}

/-- Where no call is in flight, the task of a line can be brought to its end at once. -/
theorem exists_steps_of_line (reachable : cache.Reachable) (idle : cache.calls = [])
    (line : String) (before behind : List Task) (sent : List Response) :
    let visit := navigator.answerMessage load cache (Message.ofLine line)
    visit.cache.Reachable ∧ visit.cache.calls = [] ∧ ∃ handling, handling.isDone = true ∧
      Steps navigator (.ofLoader load) ⟨cache, before ++ Task.ofLine line :: behind, sent⟩
        ⟨visit.cache, before ++ ⟨line, handling⟩ :: behind, sent ++ visit.result.toList⟩ := by
  rw [Message.answerMessage_eq_visit]
  cases silent : (Message.ofLine line).isSilent with
  | true =>
    have done : Task.ofLine line = ⟨line, .done none none⟩ := by
      rw [Task.ofLine, if_pos silent]
    rw [Message.course_of_isSilent navigator silent, done]
    refine ⟨reachable, idle, .done none none, rfl, ?_⟩
    rw [Course.visit, Visit.idle, Option.toList_none, List.append_nil]
  | false =>
    have due : Task.ofLine line = ⟨line, .due⟩ := by
      rw [Task.ofLine, if_neg (ne_true_of_eq_false silent)]
    rw [due]
    cases course : (Message.ofLine line).course navigator with
    | ready response? =>
      exact ⟨reachable, idle, .done none response?, rfl,
        .single (.works cache cache before behind ⟨line, .due⟩ _ sent
          (.settles response? rfl course))⟩
    | needs project result =>
      obtain ⟨same, still, returned⟩ := reachable.act_call_alone idle project load
      obtain ⟨loaded, brought, graph⟩ := Option.map_eq_some_iff.mp returned
      have fresh : ∀ call ∈ cache.calls, call.id ≠ project := by
        rw [idle]
        simp
      have takes : Handling.Takes (.ofLoader load) cache project project .due
          (.call project project ⟨load project, 0⟩) := .call ⟨load project, 0⟩ fresh rfl
      have own : (Task.mk line .due).course navigator = .needs project result := course
      have turn := Task.Turn.asks project result own project _ takes
      rw [brought, Handling.polled, graph, same] at turn
      have after := reachable.act .dropIdle (.call project project ⟨load project, 0⟩)
      rw [same] at after
      rw [Course.visit]
      generalize cache.getOrLoad project load = visit at turn after still ⊢
      exact ⟨after, still, _, rfl, .single (.works _ _ before behind _ _ sent turn)⟩

/-- Where no call is in flight, the tasks of all lines can be brought to their end one after the
other. -/
theorem exists_steps_of_lines (reachable : cache.Reachable) (idle : cache.calls = [])
    (lines : List String) (before : List Task) (sent : List Response) :
    let visit := navigator.answerAll load cache (lines.map Message.ofLine)
    ∃ tasks : List Task, (∀ task ∈ tasks, task.handling.isDone = true) ∧
      Steps navigator (.ofLoader load) ⟨cache, before ++ lines.map Task.ofLine, sent⟩
        ⟨visit.cache, before ++ tasks, sent ++ visit.result⟩ := by
  induction lines generalizing cache before sent with
  | nil =>
    refine ⟨[], by simp, ?_⟩
    simp only [List.map_nil, List.append_nil, Navigator.answerAll, Visit.idle]
    exact .refl
  | cons line later ih =>
    obtain ⟨after, still, handling, done, first⟩ :=
      exists_steps_of_line navigator load reachable idle line before (later.map Task.ofLine) sent
    simp only [List.map_cons, Navigator.answerAll]
    generalize navigator.answerMessage load cache (Message.ofLine line) = visit
      at after still first ⊢
    obtain ⟨tasks, finished, further⟩ := ih after still (before ++ [⟨line, handling⟩])
      (sent ++ visit.result.toList)
    refine ⟨⟨line, handling⟩ :: tasks, ?_, ?_⟩
    · intro task member
      rcases List.mem_cons.mp member with rfl | member
      · exact done
      · exact finished task member
    · simp only [List.append_assoc, List.singleton_append] at further
      exact first.trans further

/-- Where no call is in flight, a stream can be served in the order of its lines. -/
theorem exists_finished_inOrder (reachable : cache.Reachable) (idle : cache.calls = [])
    (lines : List String) :
    let visit := navigator.answerAll load cache (lines.map Message.ofLine)
    ∃ shift, Steps navigator (.ofLoader load) (start cache lines) shift ∧ shift.Finished ∧
      shift.cache = visit.cache ∧ shift.sent = visit.result := by
  obtain ⟨tasks, finished, steps⟩ :=
    exists_steps_of_lines navigator load reachable idle lines [] []
  exact ⟨_, steps, finished, rfl, rfl⟩

end InOrder

end Shift

end CallAtlas
