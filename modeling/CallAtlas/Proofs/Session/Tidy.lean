import CallAtlas.Proofs.Cache.Residence
import CallAtlas.Proofs.Cache.Residents
import CallAtlas.Proofs.Server.Course
import CallAtlas.Proofs.Session.Lone

/-!
# Sessions between two steps

Whatever was asked, served or done to the files, no call is in flight between two steps, and no
cache has two slots for a project. Requests that a broken stream leaves unfinished change nothing
about that: they wait outside of the caches until they are taken up.
-/

namespace CallAtlas

/-- A cache between two requests: no call is in flight, and no project has two slots. -/
structure Cache.Tidy (cache : Cache) : Prop where
  atRest : cache.AtRest
  keyed : cache.Keyed

theorem Cache.tidy_start : Cache.Tidy {} where
  atRest := atRest_start
  keyed := keyed_start

section Work

variable {cache : Cache} (tidy : cache.Tidy) (load : Loader)

include tidy

theorem Cache.Tidy.getOrLoad (project : String) : (cache.getOrLoad project load).1.Tidy where
  atRest := tidy.atRest.getOrLoad project load
  keyed := tidy.keyed.getOrLoad project load

theorem Course.tidy_visit {α : Type} (course : Course α) :
    (course.visit load cache).cache.Tidy := by
  cases course with
  | ready result => exact tidy
  | needs project result => exact tidy.getOrLoad load project

theorem Navigator.tidy_graphFor (project : String) :
    (Navigator.graphFor load cache project).cache.Tidy := by
  unfold Navigator.graphFor
  cases checkProjectName project with
  | error failure => exact tidy
  | ok accepted => exact tidy.getOrLoad load project

theorem Navigator.tidy_answerAll (navigator : Navigator) (messages : List Message) :
    (navigator.answerAll load cache messages).cache.Tidy := by
  induction messages generalizing cache with
  | nil => exact tidy
  | cons message rest ih =>
    unfold Navigator.answerAll
    apply ih
    rw [Message.answerMessage_eq_visit]
    exact Course.tidy_visit tidy load (message.course navigator)

theorem Participant.tidy_visit (participant : Participant) (tree : FileTree)
    (question : Question) : (participant.visit tree cache question).cache.Tidy := by
  cases needed : question.project? participant.navigator with
  | none =>
    obtain ⟨fetched, outcome, visits⟩ := participant.visit_of_project?_eq_none tree needed
    rw [visits]
    exact tidy
  | some project =>
    rw [participant.visit_of_project tree needed]
    exact tidy.getOrLoad _ project

end Work

namespace Session

/-- The sessions that are reached by steps of any kind, from any files on. -/
inductive Reachable : Session → Prop where
  | start (tree : FileTree) : Reachable { tree }
  | add {session : Session} (navigator : Navigator) (source : ArtifactSource)
      (sharing : Option Nat) (reached : Reachable session) :
    Reachable (session.add navigator source sharing)
  | step {session : Session} (number : Nat) (step : Step) (reached : Reachable session) :
    Reachable (session.step number step).1

/-- Every cache is tidy, and every navigator has one. -/
structure Tidy (session : Session) : Prop where
  caches : ∀ cache ∈ session.caches, cache.Tidy
  placed : ∀ participant ∈ session.participants, participant.cache < session.caches.length

section Keeping

variable {session : Session} (tidy : session.Tidy)

include tidy

theorem Tidy.cacheOf (participant : Participant) : (session.cacheOf participant).Tidy := by
  unfold Session.cacheOf
  cases found : session.caches[participant.cache]? with
  | none => exact Cache.tidy_start
  | some cache => exact tidy.caches cache (List.mem_of_getElem? found)

theorem Tidy.add (navigator : Navigator) (source : ArtifactSource) (sharing : Option Nat) :
    (session.add navigator source sharing).Tidy := by
  unfold Session.add
  dsimp only
  split
  · rename_i earlier found
    obtain ⟨number, -, there⟩ := Option.bind_eq_some_iff.mp found
    refine ⟨tidy.caches, fun participant member => ?_⟩
    rcases List.mem_append.mp member with old | new
    · exact tidy.placed participant old
    · obtain rfl := List.mem_singleton.mp new
      exact tidy.placed earlier (List.mem_of_getElem? there)
  · refine ⟨fun cache member => ?_, fun participant member => ?_⟩
    · rcases List.mem_append.mp member with old | new
      · exact tidy.caches cache old
      · obtain rfl := List.mem_singleton.mp new
        exact Cache.tidy_start
    · simp only [List.length_append, List.length_singleton]
      rcases List.mem_append.mp member with old | new
      · exact Nat.lt_succ_of_lt (tidy.placed participant old)
      · obtain rfl := List.mem_singleton.mp new
        exact Nat.lt_succ_self _

/-- A visit of one of the navigators changes its own cache only. -/
theorem Tidy.leave {α : Type} {number : Nat} {participant : Participant}
    (here : session.participants[number]? = some participant) {visit : Visit α}
    (left : visit.cache.Tidy) : (session.leave number participant visit).Tidy where
  caches := by
    intro cache member
    rcases List.mem_or_eq_of_mem_set member with old | rfl
    · exact tidy.caches cache old
    · exact left
  placed := by
    intro other member
    show other.cache < (session.caches.set participant.cache visit.cache).length
    rw [List.length_set]
    rcases List.mem_or_eq_of_mem_set member with old | rfl
    · exact tidy.placed other old
    · exact tidy.placed participant (List.mem_of_getElem? here)

/-- Requests that wait to be taken up change no cache. -/
theorem Tidy.postpone (requests : List Unfinished) :
    ({ session with unfinished := requests } : Session).Tidy :=
  ⟨tidy.caches, tidy.placed⟩

theorem Tidy.takeUp (held : Option (Nat × String)) (request : Unfinished) :
    (takeUp held session request).Tidy := by
  unfold Session.takeUp
  cases here : session.participants[request.number]? with
  | none => exact tidy
  | some participant =>
    have cache := tidy.cacheOf participant
    cases request.reading with
    | some outcome => exact tidy.leave here (Navigator.tidy_graphFor cache _ _)
    | none =>
      show (session.begin held participant request).Tidy
      unfold Session.begin
      dsimp only
      split
      · exact tidy
      · split
        · exact tidy.postpone _
        · exact tidy.leave here (Navigator.tidy_graphFor cache _ _)

theorem Tidy.advance (held : Option (Nat × String)) : (session.advance held).Tidy :=
  List.foldlRecOn session.unfinished _ (tidy.postpone [])
    fun _ before request _ => before.takeUp held request

theorem Tidy.put (number : Nat) (question : Question) : (session.put number question).1.Tidy := by
  unfold Session.put
  cases here : session.participants[number]? with
  | none => exact tidy
  | some participant =>
    have left := tidy.leave here
      (Participant.tidy_visit (tidy.cacheOf participant) participant session.tree question)
    dsimp only
    split
    · exact left.advance _
    · exact left

theorem Tidy.ask (number : Nat) (question : Question) : (session.ask number question).1.Tidy := by
  unfold Session.ask
  dsimp only
  split
  · exact tidy.put number question
  · exact (tidy.advance none).put number question
  · exact tidy.advance none

theorem Tidy.answerAll (number : Nat) (messages : List Message) :
    (session.answerAll number messages).1.Tidy := by
  unfold Session.answerAll
  cases here : session.participants[number]? with
  | none => exact tidy
  | some participant =>
    exact tidy.leave here (Navigator.tidy_answerAll (tidy.cacheOf participant) _ _ messages)

theorem Tidy.serveAll (number : Nat) (participant : Participant) (messages : List Message) :
    (session.serveAll number participant messages).1.Tidy := by
  have ready := ((tidy.advance none).answerAll number
    (messages.partition ((session.advance none).isWaiting participant)).2)
  unfold Session.serveAll
  dsimp only
  split
  · exact ready.answerAll number _
  · exact (ready.advance none).answerAll number _

theorem Tidy.serve (number : Nat) (stream : RequestStream) :
    (session.serve number stream).1.Tidy := by
  unfold Session.serve
  split
  · exact tidy
  · exact tidy.postpone _
  · exact tidy.serveAll number _ _

/-- A step of any kind leaves all caches tidy. -/
theorem Tidy.step (number : Nat) (step : Step) : (session.step number step).1.Tidy := by
  cases step with
  | ask question => exact tidy.ask number question
  | serve bytes => exact tidy.serve number _
  | write path node | remove path => exact ⟨tidy.caches, tidy.placed⟩

end Keeping

theorem Reachable.tidy {session : Session} (reached : session.Reachable) : session.Tidy := by
  induction reached with
  | start tree => exact ⟨nofun, nofun⟩
  | add navigator source sharing _ ih => exact ih.add navigator source sharing
  | step number step _ ih => exact ih.step number step

/-! ## Unfinished requests -/

theorem unfinished_answerAll (session : Session) (number : Nat) (messages : List Message) :
    (session.answerAll number messages).1.unfinished = session.unfinished := by
  unfold answerAll
  cases session.participants[number]? <;> rfl

/-- Steps that come one after another leave nothing unfinished, as long as no stream breaks. -/
theorem unfinished_step_of_quiet {session : Session} (quiet : session.unfinished = [])
    (number : Nat) {step : Step}
    (whole : ∀ bytes, step = .serve bytes → (RequestStream.ofBytes bytes).failure? = none) :
    (session.step number step).1.unfinished = [] := by
  cases step with
  | ask question =>
    cases here : session.participants[number]? with
    | none => simp [Session.step, Session.ask, Session.put, here, quiet]
    | some participant =>
      rw [step_ask_of_quiet quiet here]
      exact quiet
  | serve bytes =>
    simp only [Session.step, Session.serve, whole bytes rfl]
    cases session.participants[number]? with
    | none => exact quiet
    | some participant =>
      have ready (messages : List Message) :
          (session.answerAll number messages).1.unfinished = [] := by
        rw [unfinished_answerAll, quiet]
      simp only [serveAll, advance_of_quiet quiet, advance_of_quiet (ready _), ite_self,
        unfinished_answerAll, quiet]
  | write path node | remove path => exact quiet

/-- The sessions that are reached one step after another: no stream breaks, so that every step has
waited for all that it began. -/
inductive Sequential : Session → Prop where
  | start (tree : FileTree) : Sequential { tree }
  | add {session : Session} (navigator : Navigator) (source : ArtifactSource)
      (sharing : Option Nat) (before : Sequential session) :
    Sequential (session.add navigator source sharing)
  | step {session : Session} (number : Nat) (step : Step)
      (whole : ∀ bytes, step = .serve bytes → (RequestStream.ofBytes bytes).failure? = none)
      (before : Sequential session) : Sequential (session.step number step).1

theorem unfinished_add (session : Session) (navigator : Navigator) (source : ArtifactSource)
    (sharing : Option Nat) :
    (session.add navigator source sharing).unfinished = session.unfinished := by
  unfold add
  dsimp only
  split <;> rfl

namespace Sequential

variable {session : Session} (sequential : session.Sequential)

include sequential

theorem reachable : session.Reachable := by
  induction sequential with
  | start tree => exact .start tree
  | add navigator source sharing _ ih => exact .add navigator source sharing ih
  | step number step whole _ ih => exact .step number step ih

/-- Nothing is ever unfinished while no stream breaks. -/
theorem quiet : session.unfinished = [] := by
  induction sequential with
  | start tree => rfl
  | add navigator source sharing _ ih => rw [unfinished_add, ih]
  | step number step whole _ ih => exact unfinished_step_of_quiet ih number whole

end Sequential

end Session

end CallAtlas
