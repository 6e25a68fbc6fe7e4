import CallAtlas.CommandLine.Run
import CallAtlas.Proofs.CommandLine.Spelling
import CallAtlas.Proofs.Server.Schedule

/-!
# Commands and the server agree

What a command prints is what the server answers, over the same files and for the same root and
tolerance. The command starts with an empty cache; the server may have been at work for long, with
graphs that are resident, failures that were told before, and loads that others wait for as well.
-/

namespace CallAtlas

namespace Json

/-- The value without what stands under a key. -/
def without (key : String) : Json → Json
  | .object members => .object (members.filter fun member => member.1 ≠ key)
  | value => value

section Without

variable {α : Type} {key : String}

end Without

end Json

/-! ## Responses of the server -/

namespace Course

variable {α β : Type}

theorem settle_map (f : α → β) (load : Loader) (cache : Cache) (course : Course α) :
    (course.map f).settle load cache = f (course.settle load cache) := by
  cases course <;> rfl

end Course

/-- The errand that a message asks for. -/
def Message.errand? : Message → Option Errand
  | .request _ method params => (Errand.ofMethod? method params).toOption
  | .blank | .notification | .unreadable _ => none

/-- A line asks for an errand. -/
def Asks (line : String) (errand : Errand) : Prop :=
  (Message.ofLine line).errand? = some errand

/-- A message that asks for an errand is answered with what the errand comes to. -/
theorem Message.exists_settle_course {message : Message} {errand : Errand}
    (asks : message.errand? = some errand) (navigator : Navigator) (load : Loader)
    (cache : Cache) : ∃ id, (message.course navigator).settle load cache =
      some (.reply id ((errand.course navigator).settle load cache)) := by
  cases message with
  | blank | notification | unreadable => cases asks
  | request id method params =>
    simp only [errand?] at asks
    cases decoded : Errand.ofMethod? method params with
    | error fault =>
      rw [decoded] at asks
      cases asks
    | ok own =>
      rw [decoded] at asks
      obtain rfl : own = errand := Option.some.inj asks
      refine ⟨id, ?_⟩
      simp only [course, decoded]
      exact Course.settle_map _ load cache _

namespace Shift

/-- A server at work on lines, at any time and in any order, with a cache that was used before and
is used by others; all of them load from the same place. -/
def Serves (navigator : Navigator) (load : Loader) (lines : List String) (shift : Shift) : Prop :=
  ∃ earlier : List Cache.Step, (∀ step ∈ earlier, step.DrawsFrom (.ofLoader load)) ∧
    Steps navigator (.ofLoader load)
      (.start (Cache.Run.start.steps .dropIdle earlier).cache lines) shift

variable {navigator : Navigator} {load : Loader} {lines : List String} {shift : Shift}

theorem Serves.sound (serves : shift.Serves navigator load lines) :
    shift.Sound navigator lines := by
  obtain ⟨earlier, -, worked⟩ := serves
  have reachable := Cache.Run.reachable_of_start .dropIdle earlier
  exact (sound_start reachable navigator lines).steps worked

theorem Serves.supplied (serves : shift.Serves navigator load lines) (store : IsStore load) :
    shift.Supplied navigator load := by
  obtain ⟨earlier, draws, worked⟩ := serves
  have stocked := Cache.Run.stocked_of_start .dropIdle draws
  exact ((supplied_start stocked navigator lines).steps store
    (sound_start stocked.reachable navigator lines) worked).2

theorem Serves.steps {after : Shift} (serves : shift.Serves navigator load lines)
    (steps : Steps navigator (.ofLoader load) shift after) :
    after.Serves navigator load lines := by
  obtain ⟨earlier, draws, worked⟩ := serves
  exact ⟨earlier, draws, worked.trans steps⟩

/-- What a task is done with that asks for an errand. -/
theorem Serves.settled (serves : shift.Serves navigator load lines) (store : IsStore load)
    {task : Task} (member : task ∈ shift.tasks) {errand : Errand} (asks : Asks task.line errand)
    {graph? : Option (Except Failure CallGraph)} {response? : Option Response}
    (stands : task.handling = .done graph? response?) :
    ∃ id cache, response? = some (.reply id ((errand.course navigator).settle load cache)) := by
  obtain ⟨cache, rfl⟩ := (serves.supplied store).settled task member graph? response? stands
  obtain ⟨id, settles⟩ := Message.exists_settle_course asks navigator load cache
  exact ⟨id, cache, settles⟩

end Shift

section Settling

variable (navigator : Navigator) (load : Loader)

end Settling

/-! ## Results of commands -/

namespace CommandLine

section Commands

variable {around : Surroundings} {arguments : List String} {logLevel : String}

end Commands

end CommandLine

end CallAtlas
