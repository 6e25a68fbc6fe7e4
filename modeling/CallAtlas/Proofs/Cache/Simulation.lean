import CallAtlas.Proofs.Cache.Operations

/-!
# Lanes get on by themselves

Each step of a sound cache leaves a sound cache, and takes each lane one step further. So the calls
for a project and their results depend on nothing but what was done with calls of these names and
with this project.
-/

namespace CallAtlas.Cache

section Polling

variable {cache : Cache} (sound : cache.Sound) (retention : Retention) {call : Call}
  {behind : List Call} (line : cache.callsFor call.project = call :: behind) (project : String)

include sound line

omit line in
theorem Sound.settle (call : Call) : (cache.settle call).Sound :=
  sound.write_ledger call.slot _ fun _ => rfl

theorem Sound.conclude : (cache.conclude retention call).Sound :=
  (sound.settle call).finish retention call.outcome line

theorem Sound.lane_conclude :
    (cache.conclude retention call).lane project =
      if call.project = project then
        Lane.depart retention
          ⟨(cache.ledger project).settle call.outcome, behind.map Call.toInquiry⟩ call.outcome
      else cache.lane project := by
  have found := sound.current call (mem_of_line line).1
  have written : (cache.settle call).ledger project = _ :=
    sound.ledger_write call.slot _ found project
  refine ((sound.settle call).lane_finish retention call.outcome line project).trans ?_
  by_cases same : call.project = project
  · subst same
    rw [if_pos rfl] at written ⊢
    rw [if_pos rfl, written, ledger_of_slot? found]
  · rw [if_neg same] at written ⊢
    rw [if_neg same, lane, written]
    rfl

theorem Sound.pollLoader (suspensions : Nat) :
    (cache.pollLoader retention call suspensions).1.Sound := by
  cases suspensions with
  | zero => exact sound.conclude retention line
  | succ left => exact sound.advance (.loading left)

theorem Sound.lane_pollLoader (suspensions : Nat) :
    (cache.pollLoader retention call suspensions).1.lane project =
      if call.project = project then
        (Lane.pollLoader retention (cache.ledger project) call.toInquiry
          (behind.map Call.toInquiry) suspensions).1
      else cache.lane project := by
  cases suspensions with
  | zero => exact sound.lane_conclude retention line project
  | succ left =>
    show (cache.advance call (.loading left)).lane project = _
    unfold lane
    rw [callsFor_advance]
    by_cases same : call.project = project
    · subst same
      have front : call.restage call.id (.loading left) = { call with stage := .loading left } :=
        if_pos rfl
      rw [if_pos rfl, line, List.map_cons,
        map_restage_of_missing _ (sound.behind_missing line), front]
      rfl
    · rw [if_neg same,
        map_restage_of_missing _ (sound.elsewhere_missing (mem_of_line line).1 same)]
      rfl

omit sound line in
theorem reply_pollLoader (ledger : Ledger) (behind : List Inquiry) (suspensions : Nat) :
    (cache.pollLoader retention call suspensions).2 =
      (Lane.pollLoader retention ledger call.toInquiry behind suspensions).2 := by
  cases suspensions <;> rfl

theorem Sound.takeTurn (turn : Turn) : (cache.takeTurn retention call turn).1.Sound := by
  cases turn with
  | takes loaded => exact sound.finish retention (.ok loaded) line
  | shares failure => exact sound.finish retention (.error failure) line
  | loads => exact sound.pollLoader retention line call.load.suspensions

theorem Sound.lane_takeTurn (turn : Turn) :
    (cache.takeTurn retention call turn).1.lane project =
      if call.project = project then
        (Lane.takeTurn retention (cache.ledger project) call.toInquiry
          (behind.map Call.toInquiry) turn).1
      else cache.lane project := by
  cases turn with
  | takes loaded => exact sound.lane_finish retention (.ok loaded) line project
  | shares failure => exact sound.lane_finish retention (.error failure) line project
  | loads => exact sound.lane_pollLoader retention line project call.load.suspensions

omit sound line in
theorem progress_takeTurn (ledger : Ledger) (behind : List Inquiry) (turn : Turn) :
    (cache.takeTurn retention call turn).2 =
      (Lane.takeTurn retention ledger call.toInquiry behind turn).2 := by
  cases turn with
  | takes loaded => rfl
  | shares failure => rfl
  | loads => exact congrArg (Progress.mk · .started) (reply_pollLoader retention ledger behind _)

theorem Sound.pollOwner : (cache.pollOwner retention call).1.Sound := by
  unfold Cache.pollOwner
  cases call.stage with
  | loading suspensions => exact sound.pollLoader retention line suspensions
  | waiting => exact sound.takeTurn retention line _

/-- The owner of the lock gets on as the first of its lane does. -/
theorem Sound.lane_pollOwner :
    (cache.pollOwner retention call).1.lane project =
      if call.project = project then
        (Lane.pollFirst retention (cache.ledger project) call.toInquiry
          (behind.map Call.toInquiry)).1
      else cache.lane project := by
  unfold Cache.pollOwner Lane.pollFirst
  cases call.stage with
  | loading suspensions => exact sound.lane_pollLoader retention line project suspensions
  | waiting =>
    refine (sound.lane_takeTurn retention line project _).trans ?_
    refine if_ctx_congr Iff.rfl ?_ fun _ => rfl
    rintro rfl
    -- The slot that the call holds is the one its project has now.
    rw [ledger_of_slot? (sound.current call (mem_of_line line).1)]

theorem Sound.progress_pollOwner :
    (cache.pollOwner retention call).2 =
      (Lane.pollFirst retention (cache.ledger call.project) call.toInquiry
        (behind.map Call.toInquiry)).2 := by
  unfold Cache.pollOwner Lane.pollFirst
  cases call.stage with
  | loading suspensions =>
    exact congrArg (Progress.mk · .resumed) (reply_pollLoader retention _ _ suspensions)
  | waiting =>
    rw [ledger_of_slot? (sound.current call (mem_of_line line).1)]
    exact progress_takeTurn retention _ _ _

end Polling

section Calling

variable {cache : Cache} (sound : cache.Sound) (retention : Retention) {call : Call}
  (member : call ∈ cache.calls) (project : String)

include sound member

/-- The owner of the lock of a project is the first of the calls in flight for it. -/
theorem Sound.owns_iff :
    cache.owns call = true ↔ ∃ behind, cache.callsFor call.project = call :: behind := by
  have lock := sound.locks _ _ (sound.current call member)
  have present : call ∈ cache.callsFor call.project := mem_callsFor.mpr ⟨member, rfl⟩
  unfold Cache.owns
  rw [lock, decide_eq_true_eq]
  cases line : cache.callsFor call.project with
  | nil =>
    rw [line] at present
    cases present
  | cons first behind =>
    constructor
    · intro same
      have firstMember := (mem_of_line line).1
      obtain rfl := sound.call_unique firstMember member (Option.some.inj same)
      exact ⟨behind, rfl⟩
    · rintro ⟨others, same⟩
      exact congrArg some (congrArg (fun call : Call => call.id) (List.cons.inj same).1)

theorem Sound.pollCall : (cache.pollCall retention call).1.Sound := by
  unfold Cache.pollCall
  split
  · rename_i owns
    obtain ⟨behind, line⟩ := (sound.owns_iff member).mp owns
    exact sound.pollOwner retention line
  · exact sound

/-- A call that does not own the lock is not the first of its lane. -/
theorem Sound.lane_poll_waiting (waits : ¬ cache.owns call = true) :
    (cache.lane call.project).poll retention call.id =
      (cache.lane call.project, ⟨.pending, .unused⟩) := by
  cases line : cache.callsFor call.project with
  | nil => exact Lane.poll_of_queue_nil (by rw [lane, line, List.map_nil])
  | cons first behind =>
    apply Lane.poll_other (by rw [lane, line, List.map_cons])
    intro same
    have firstMember := (mem_of_line line).1
    obtain rfl := sound.call_unique firstMember member same
    exact waits ((sound.owns_iff member).mpr ⟨behind, line⟩)

/-- A poll of a call is a poll of its lane, and no other lane gets on. -/
theorem Sound.lane_pollCall :
    (cache.pollCall retention call).1.lane project =
      if call.project = project then ((cache.lane project).poll retention call.id).1
      else cache.lane project := by
  unfold Cache.pollCall
  split
  · rename_i owns
    obtain ⟨behind, line⟩ := (sound.owns_iff member).mp owns
    refine (sound.lane_pollOwner retention line project).trans ?_
    refine if_ctx_congr Iff.rfl ?_ fun _ => rfl
    rintro rfl
    rw [lane, line, List.map_cons, Lane.poll_first]
  · rename_i waits
    refine (if_ctx_congr Iff.rfl ?_ fun _ => rfl).trans (ite_self _) |>.symm
    rintro rfl
    exact congrArg Prod.fst (sound.lane_poll_waiting retention member waits)

theorem Sound.progress_pollCall :
    (cache.pollCall retention call).2 =
      ((cache.lane call.project).poll retention call.id).2 := by
  unfold Cache.pollCall
  split
  · rename_i owns
    obtain ⟨behind, line⟩ := (sound.owns_iff member).mp owns
    rw [sound.progress_pollOwner retention line, lane, line, List.map_cons, Lane.poll_first]
  · rename_i waits
    rw [sound.lane_poll_waiting retention member waits]

end Calling

section Stepping

theorem mem_enroll (cache : Cache) (call : Call) : call ∈ (cache.enroll call).calls :=
  List.mem_append_right _ (List.mem_singleton_self _)

theorem lane_enroll_newCall {cache : Cache} {project : String} {slot : SlotId}
    (found : cache.slot? project = some slot) (id : CallId) (load : Load) :
    (cache.enroll (cache.newCall project slot id load)).lane project =
      (cache.lane project).enqueue id load := by
  refine (lane_enroll _ _ _).trans ((if_pos rfl).trans ?_)
  unfold newCall Lane.enqueue
  rw [← ledger_of_slot? found]
  rfl

theorem lane_cancel (cache : Cache) (id : CallId) (project : String) :
    (cache.cancel id).1.lane project = (cache.lane project).leave id := by
  unfold cancel
  cases found : cache.call? id with
  | none =>
    have missing : ∀ call ∈ cache.callsFor project, call.id ≠ id := by
      intro call member
      simpa using List.find?_eq_none.mp found call (mem_callsFor.mp member).1
    exact (Lane.leave_of_missing (by simpa [lane] using missing)).symm
  | some call =>
    obtain ⟨-, rfl⟩ := mem_of_call? found
    exact lane_retire cache call project

theorem missing_cancel (cache : Cache) (id : CallId) :
    ∀ other ∈ (cache.cancel id).1.calls, other.id ≠ id := by
  unfold cancel
  cases found : cache.call? id with
  | none =>
    intro other member
    simpa using List.find?_eq_none.mp found other member
  | some call =>
    obtain ⟨-, rfl⟩ := mem_of_call? found
    intro other left
    simpa using (List.mem_filter.mp left).2

variable {cache : Cache} (sound : cache.Sound) (retention : Retention)

include sound

theorem Sound.cancel (id : CallId) : (cache.cancel id).1.Sound := by
  unfold Cache.cancel
  cases found : cache.call? id with
  | none => exact sound
  | some call => exact sound.retire (mem_of_call? found).1

section Arrival

variable {project : String} {slot : SlotId} (found : cache.slot? project = some slot)
  {id : CallId} (fresh : ∀ other ∈ cache.calls, other.id ≠ id) (load : Load)

include found fresh

theorem Sound.arrive : (cache.arrive retention project slot id load).1.Sound := by
  unfold Cache.arrive
  cases (cache.store slot).graph with
  | some loaded => exact sound
  | none =>
    have enrolled : (cache.enroll (cache.newCall project slot id load)).Sound :=
      sound.enroll found fresh
    exact enrolled.pollCall retention (mem_enroll _ _)

omit sound fresh in
theorem graph_lane : (cache.lane project).graph = (cache.store slot).graph :=
  congrArg Ledger.graph (ledger_of_slot? found)

/-- A call that arrives is the arrival of its lane, and no other lane gets on. -/
theorem Sound.lane_arrive (other : String) :
    (cache.arrive retention project slot id load).1.lane other =
      if project = other then ((cache.lane other).arrive retention id load).1
      else cache.lane other := by
  have bare := graph_lane found
  unfold Cache.arrive
  cases graph : (cache.store slot).graph with
  | some loaded =>
    refine (if_ctx_congr Iff.rfl ?_ fun _ => rfl).trans (ite_self _) |>.symm
    rintro rfl
    rw [Lane.arrive, bare, graph]
  | none =>
    have enrolled : (cache.enroll (cache.newCall project slot id load)).Sound :=
      sound.enroll found fresh
    refine (enrolled.lane_pollCall retention (mem_enroll _ _) other).trans ?_
    refine if_ctx_congr Iff.rfl ?_ ?_
    · rintro rfl
      rw [Lane.arrive, bare, graph]
      exact congrArg (fun lane => (Lane.poll retention lane id).1)
          (lane_enroll_newCall found id load)
    · intro elsewhere
      exact (lane_enroll _ _ _).trans (if_neg elsewhere)

theorem Sound.progress_arrive :
    (cache.arrive retention project slot id load).2 =
      ((cache.lane project).arrive retention id load).2 := by
  have bare := graph_lane found
  unfold Cache.arrive Lane.arrive
  rw [bare]
  cases (cache.store slot).graph with
  | some loaded => rfl
  | none =>
    have enrolled : (cache.enroll (cache.newCall project slot id load)).Sound :=
      sound.enroll found fresh
    refine (enrolled.progress_pollCall retention (mem_enroll _ _)).trans ?_
    exact congrArg (fun lane => (Lane.poll retention lane id).2) (lane_enroll_newCall found id load)

end Arrival

section Calls

variable (project : String) {id : CallId} (fresh : ∀ other ∈ cache.calls, other.id ≠ id)
  (load : Load)

include fresh

theorem Sound.call : (cache.call retention project id load).1.Sound :=
  (sound.openSlot project).arrive retention (slot?_openSlot cache project)
    (calls_openSlot cache project ▸ fresh) load

theorem Sound.lane_call (other : String) :
    (cache.call retention project id load).1.lane other =
      if project = other then ((cache.lane other).arrive retention id load).1
      else cache.lane other := by
  have arrived := (sound.openSlot project).lane_arrive retention (slot?_openSlot cache project)
    (calls_openSlot cache project ▸ fresh) load other
  rw [sound.lane_openSlot] at arrived
  exact arrived

theorem Sound.progress_call :
    (cache.call retention project id load).2 =
      ((cache.lane project).arrive retention id load).2 := by
  have arrived := (sound.openSlot project).progress_arrive retention (slot?_openSlot cache project)
    (calls_openSlot cache project ▸ fresh) load
  rw [sound.lane_openSlot] at arrived
  exact arrived

end Calls

/-! ## Steps -/

/-- A step leaves a sound cache. -/
theorem Sound.act (step : Step) : (cache.act retention step).1.Sound := by
  cases step with
  | call id project load =>
    exact (sound.cancel id).call retention project (missing_cancel cache id) load
  | poll id =>
    show (cache.poll retention id).1.Sound
    unfold Cache.poll
    cases found : cache.call? id with
    | none => exact sound
    | some call => exact sound.pollCall retention (mem_of_call? found).1
  | cancel id => exact sound.cancel id
  | get project => exact sound

omit sound in
/-- A lane serves the calls in flight for its project. -/
theorem serves_lane_iff {project : String} {id : CallId} :
    (cache.lane project).serves id = true ↔
      ∃ call ∈ cache.calls, call.project = project ∧ call.id = id := by
  simp [Lane.serves, lane, mem_callsFor, and_assoc]

/-- What a poll does to the lanes, and what it tells. -/
theorem Sound.lane_poll (id : CallId) (project : String) :
    (cache.poll retention id).1.lane project =
        ((cache.lane project).act retention project (.poll id)).1 ∧
      ((cache.lane project).act retention project (.poll id)).2 =
        ((cache.poll retention id).2.filter fun polled => polled.1 = project).map Prod.snd := by
  unfold Cache.poll
  cases found : cache.call? id with
  | none =>
    have elsewhere : ¬ (cache.lane project).serves id = true := by
      rw [serves_lane_iff]
      rintro ⟨call, member, -, same⟩
      exact List.find?_eq_none.mp found call member (by simpa using same)
    rw [Lane.act_poll_other project elsewhere]
    exact ⟨rfl, rfl⟩
  | some call =>
    obtain ⟨member, rfl⟩ := mem_of_call? found
    have polled := sound.lane_pollCall retention member project
    by_cases same : call.project = project
    · subst same
      have served := serves_lane_iff.mpr ⟨call, member, rfl, rfl⟩
      rw [Lane.act_poll_own _ served, ← sound.progress_pollCall retention member]
      rw [if_pos rfl] at polled
      exact ⟨polled, by simp [Option.filter_some]⟩
    · have elsewhere : ¬ (cache.lane project).serves call.id = true := by
        rw [serves_lane_iff]
        rintro ⟨other, otherMember, rfl, sameName⟩
        exact same (congrArg Call.project (sound.call_unique member otherMember sameName.symm))
      rw [Lane.act_poll_other project elsewhere]
      rw [if_neg same] at polled
      exact ⟨polled, by simp [Option.filter_some, same]⟩

/-- A step takes each lane one step further. -/
theorem Sound.lane_act (step : Step) (project : String) :
    (cache.act retention step).1.lane project =
      ((cache.lane project).act retention project step).1 := by
  cases step with
  | call id other load =>
    have called := (sound.cancel id).lane_call retention other (missing_cancel cache id) load
      project
    rw [lane_cancel] at called
    refine called.trans ?_
    by_cases same : other = project
    · subst same
      rw [if_pos rfl, Lane.act_call_own]
    · rw [if_neg same, Lane.act_call_other same]
  | poll id => exact (sound.lane_poll retention id project).1
  | cancel id => exact lane_cancel cache id project
  | get other => rfl

/-- What a step does with a call is what the lane of its project does. -/
theorem Sound.event_act (step : Step) (project : String) :
    ((cache.lane project).act retention project step).2 =
      ((cache.act retention step).2.filter fun event => event.project = project).map
        Event.progress := by
  cases step with
  | call id other load =>
    have called := (sound.cancel id).progress_call retention other (missing_cancel cache id) load
    rw [lane_cancel] at called
    by_cases same : other = project
    · subst same
      simp [Lane.act_call_own, Cache.act, Option.filter_some, called]
    · simp [Lane.act_call_other same, Cache.act, Option.filter_some, same]
  | poll id =>
    refine (sound.lane_poll retention id project).2.trans ?_
    show _ = (((cache.poll retention id).2.map _).filter _).map _
    cases (cache.poll retention id).2 with
    | none => rfl
    | some polled => by_cases same : polled.1 = project <;> simp [Option.filter_some, same]
  | cancel id => rfl
  | get other => rfl

end Stepping

end CallAtlas.Cache
