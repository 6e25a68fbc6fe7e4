import CallAtlas.Proofs.Cache.Waiting
import Mathlib.Data.List.Induction

/-!
# Idle slots

A slot is idle if it holds no graph and no call for its project is in flight. No call that arrives
or is polled leaves its slot idle, and a call that fails takes an idle slot with it. What leaves a
slot idle is only the drop of the last call for a project, and the slot stays until a call comes
for the project again.
-/

namespace CallAtlas.Cache

/-- A project has a slot without a graph, and no call for it is in flight. -/
structure Idle (cache : Cache) (project : String) : Prop where
  slot : (cache.slot? project).isSome = true
  bare : cache.resident? project = none
  deserted : cache.callsFor project = []

theorem queue_lane_eq_nil_iff {cache : Cache} {project : String} :
    (cache.lane project).queue = [] ↔ cache.callsFor project = [] :=
  List.map_eq_nil_iff

theorem idle_iff_lane {cache : Cache} {project : String} :
    cache.Idle project ↔ (cache.slot? project).isSome = true ∧
      (cache.lane project).graph = none ∧ (cache.lane project).queue = [] := by
  rw [← resident?_eq_graph, queue_lane_eq_nil_iff]
  exact ⟨fun ⟨slot, bare, deserted⟩ => ⟨slot, bare, deserted⟩,
    fun ⟨slot, bare, deserted⟩ => ⟨slot, bare, deserted⟩⟩

theorem idle_congr {cache other : Cache} {project : String}
    (slot : cache.slot? project = other.slot? project)
    (lane : cache.lane project = other.lane project) :
    cache.Idle project ↔ other.Idle project := by
  rw [idle_iff_lane, idle_iff_lane, slot, lane]

theorem not_idle_of_mem {cache : Cache} {call : Call} (member : call ∈ cache.calls) :
    ¬ cache.Idle call.project := by
  intro idle
  have present : call ∈ cache.callsFor call.project := mem_callsFor.mpr ⟨member, rfl⟩
  rw [idle.deserted] at present
  cases present

/-! ## The slots of other projects -/

section Elsewhere

variable (retention : Retention) (cache : Cache) {call : Call} {other : String}
  (elsewhere : other ≠ call.project)

include elsewhere

theorem slot?_finish_ne (result : Except Failure Loaded) :
    (cache.finish retention call result).slot? other = cache.slot? other := by
  cases result with
  | ok loaded => rfl
  | error failure =>
    show (cache.release retention call.project call.slot).slot? other = cache.slot? other
    unfold release
    split
    · exact slot?_forget_ne cache elsewhere
    · rfl

theorem slot?_pollLoader_ne (suspensions : Nat) :
    (cache.pollLoader retention call suspensions).1.slot? other = cache.slot? other := by
  cases suspensions with
  | zero => exact slot?_finish_ne retention (cache.settle call) elsewhere call.outcome
  | succ left => rfl

theorem slot?_takeTurn_ne (turn : Turn) :
    (cache.takeTurn retention call turn).1.slot? other = cache.slot? other := by
  cases turn with
  | takes loaded => exact slot?_finish_ne retention cache elsewhere (.ok loaded)
  | shares failure => exact slot?_finish_ne retention cache elsewhere (.error failure)
  | loads => exact slot?_pollLoader_ne retention cache elsewhere call.load.suspensions

/-- A poll of a call leaves the slots of other projects as they are. -/
theorem slot?_pollCall_ne :
    (cache.pollCall retention call).1.slot? other = cache.slot? other := by
  unfold pollCall pollOwner
  split
  · cases call.stage with
    | loading suspensions => exact slot?_pollLoader_ne retention cache elsewhere suspensions
    | waiting => exact slot?_takeTurn_ne retention cache elsewhere _
  · rfl

end Elsewhere

/-- The arrival of a call leaves the slots of other projects as they are. -/
theorem slot?_call_ne (retention : Retention) (cache : Cache) {project other : String}
    (elsewhere : other ≠ project) (id : CallId) (load : Load) :
    (cache.call retention project id load).1.slot? other = cache.slot? other := by
  have opened : (cache.openSlot project).1.slot? other = cache.slot? other := by
    unfold openSlot
    cases cache.slot? project with
    | none => exact slot?_make_ne cache elsewhere
    | some slot => rfl
  refine Eq.trans ?_ opened
  show ((cache.openSlot project).1.arrive retention project _ id load).1.slot? other = _
  unfold arrive
  split
  · rfl
  · exact slot?_pollCall_ne retention _ elsewhere

theorem slot?_cancel (cache : Cache) (id : CallId) (project : String) :
    (cache.cancel id).1.slot? project = cache.slot? project := by
  unfold cancel
  cases cache.call? id <;> rfl

/-! ## The slot of the call itself -/

section Own

variable {cache : Cache} (sound : cache.Sound) {call : Call} {behind : List Call}
  (line : cache.callsFor call.project = call :: behind)

include sound line

/-- A call that ends leaves a graph, or calls behind it, or no slot. -/
theorem Sound.not_idle_finish (result : Except Failure Loaded)
    (brought : ∀ loaded, result = .ok loaded → (cache.ledger call.project).graph ≠ none) :
    ¬ (cache.finish .dropIdle call result).Idle call.project := by
  intro idle
  have lane := sound.lane_finish .dropIdle result line call.project
  rw [if_pos rfl] at lane
  obtain ⟨slot, bare, deserted⟩ := idle_iff_lane.mp idle
  rw [lane] at bare deserted
  cases result with
  | ok loaded => exact brought loaded rfl bare
  | error failure =>
    -- Either the slot is dropped with the call, or somebody or something keeps it.
    by_cases alone : (cache.ledger call.project).graph.isNone ∧ behind = []
    · unfold Cache.finish at slot
      simp only at slot
      rw [sound.release_eq .dropIdle line, if_pos ⟨rfl, alone⟩] at slot
      have gone : ((cache.forget call.project).retire call).slot? call.project = none :=
        slot?_forget_self cache call.project
      rw [gone] at slot
      cases slot
    · have stays : ¬ ((cache.ledger call.project).graph.isNone ∧
          behind.map Call.toInquiry = []) := by
        simpa using alone
      simp only [Lane.depart, stays, and_false, if_false] at bare deserted
      exact stays ⟨by rw [bare]; rfl, deserted⟩

theorem Sound.not_idle_pollLoader (suspensions : Nat) :
    ¬ (cache.pollLoader .dropIdle call suspensions).1.Idle call.project := by
  cases suspensions with
  | zero =>
    apply (sound.settle call).not_idle_finish line
    intro loaded success
    have found := sound.current call (mem_of_line line).1
    have settled : (cache.settle call).ledger call.project = _ :=
      sound.ledger_write call.slot _ found call.project
    rw [settled, if_pos rfl, success]
    simp [Ledger.settle]
  | succ left =>
    have member : { call with stage := .loading left } ∈
        (cache.advance call (.loading left)).calls :=
      List.mem_map.mpr ⟨call, (mem_of_line line).1, if_pos rfl⟩
    intro idle
    exact not_idle_of_mem member idle

theorem Sound.not_idle_takeTurn (failuresSeen : Nat) :
    ¬ (cache.takeTurn .dropIdle call ((cache.store call.slot).turn failuresSeen)).1.Idle
      call.project := by
  have ledger := ledger_of_slot? (sound.current call (mem_of_line line).1)
  cases turn : (cache.store call.slot).turn failuresSeen with
  | takes loaded =>
    refine sound.not_idle_finish line (.ok loaded) ?_
    intro other _ bare
    rw [ledger] at bare
    rw [Ledger.turn, bare] at turn
    cases shared : (cache.store call.slot).sharedFailure? failuresSeen with
    | none =>
      rw [shared] at turn
      cases turn
    | some failure =>
      rw [shared] at turn
      cases turn
  | shares failure =>
    refine sound.not_idle_finish line (.error failure) ?_
    intro loaded success
    cases success
  | loads => exact sound.not_idle_pollLoader line call.load.suspensions

end Own

section Polling

variable {cache : Cache} (sound : cache.Sound)

include sound

/-- A call that is polled does not leave its slot idle. -/
theorem Sound.not_idle_pollCall {call : Call} (member : call ∈ cache.calls) :
    ¬ (cache.pollCall .dropIdle call).1.Idle call.project := by
  unfold Cache.pollCall
  split
  · rename_i owns
    obtain ⟨behind, line⟩ := (sound.owns_iff member).mp owns
    unfold Cache.pollOwner
    cases call.stage with
    | loading suspensions => exact sound.not_idle_pollLoader line suspensions
    | waiting => exact sound.not_idle_takeTurn line call.failuresSeen
  · exact not_idle_of_mem member

theorem Sound.not_idle_arrive {project : String} {slot : SlotId}
    (found : cache.slot? project = some slot) {id : CallId}
    (fresh : ∀ other ∈ cache.calls, other.id ≠ id) (load : Load) :
    ¬ (cache.arrive .dropIdle project slot id load).1.Idle project := by
  unfold Cache.arrive
  split
  · rename_i loaded there
    intro idle
    have bare := (idle_iff_lane.mp idle).2.1
    rw [graph_lane found, there] at bare
    cases bare
  · have enrolled : (cache.enroll (cache.newCall project slot id load)).Sound :=
      sound.enroll found fresh
    intro idle
    exact enrolled.not_idle_pollCall (mem_enroll _ _) idle

/-- A call that arrives does not leave its slot idle. -/
theorem Sound.not_idle_call (project : String) {id : CallId}
    (fresh : ∀ other ∈ cache.calls, other.id ≠ id) (load : Load) :
    ¬ (cache.call .dropIdle project id load).1.Idle project :=
  (sound.openSlot project).not_idle_arrive (slot?_openSlot cache project)
    (calls_openSlot cache project ▸ fresh) load

end Polling

/-! ## Steps -/

/-- Whether a step is the arrival of a call for a project. -/
def Step.asksFor : Step → String → Bool
  | .call _ other _, project => other = project
  | _, _ => false

/-- A step that drops the last calls for a project while there is no graph. -/
structure Abandons (cache : Cache) (project : String) (step : Step) : Prop where
  /-- The step is no arrival of another call. -/
  silent : step.asksFor project = false
  /-- Somebody called for the project. -/
  called : cache.callsFor project ≠ []
  /-- All who did are dropped. -/
  dropped : ∀ call ∈ cache.callsFor project, step.drops call.id = true
  bare : cache.resident? project = none

/-- A step that drops nobody abandons nothing. -/
theorem not_abandons_of_kept {cache : Cache} {project : String} {step : Step}
    (kept : ∀ id, step.drops id = false) : ¬ cache.Abandons project step := by
  intro abandons
  obtain ⟨call, present⟩ := List.exists_mem_of_ne_nil _ abandons.called
  have dropped := abandons.dropped call present
  rw [kept] at dropped
  cases dropped

theorem queue_leave_lane_eq_nil_iff {cache : Cache} {project : String} {id : CallId} :
    ((cache.lane project).leave id).queue = [] ↔
      ∀ call ∈ cache.callsFor project, call.id = id := by
  simp [Lane.leave, lane, List.filter_eq_nil_iff]

section Stepping

variable {cache : Cache} (sound : cache.Sound) (project : String)

include sound

/-- Whoever calls for a project holds its slot. -/
theorem Sound.isSome_slot? (called : cache.callsFor project ≠ []) :
    (cache.slot? project).isSome = true := by
  obtain ⟨call, present⟩ := List.exists_mem_of_ne_nil _ called
  obtain ⟨member, rfl⟩ := mem_callsFor.mp present
  rw [sound.current call member]
  rfl

/-- A slot is idle after calls of a name were dropped if it was idle before, or if all calls for the
project were of that name. -/
theorem Sound.idle_cancel_iff {step : Step} {id : CallId} (silent : step.asksFor project = false)
    (drops : ∀ other, step.drops other = decide (id = other)) :
    (cache.cancel id).1.Idle project ↔
      (cache.Idle project ∧ step.asksFor project = false) ∨ cache.Abandons project step := by
  have slot := slot?_cancel cache id project
  have all : (∀ call ∈ cache.callsFor project, call.id = id) ↔
      ∀ call ∈ cache.callsFor project, step.drops call.id = true := by
    simp only [drops, decide_eq_true_eq, eq_comm (a := id)]
  rw [idle_iff_lane, lane_cancel, slot, queue_leave_lane_eq_nil_iff, all]
  constructor
  · rintro ⟨present, bare, dropped⟩
    have bare := (resident?_eq_graph cache project).trans bare
    by_cases empty : cache.callsFor project = []
    · exact .inl ⟨⟨present, bare, empty⟩, silent⟩
    · exact .inr ⟨silent, empty, dropped, bare⟩
  · rintro (⟨idle, -⟩ | abandons)
    · exact ⟨idle.slot, (idle_iff_lane.mp idle).2.1, by simp [idle.deserted]⟩
    · exact ⟨sound.isSome_slot? project abandons.called,
        (resident?_eq_graph cache project).symm.trans abandons.bare, abandons.dropped⟩

/-- A poll leaves a slot idle only if it was idle before. -/
theorem Sound.idle_poll_iff (id : CallId) :
    (cache.poll .dropIdle id).1.Idle project ↔ cache.Idle project := by
  unfold Cache.poll
  cases found : cache.call? id with
  | none => exact Iff.rfl
  | some call =>
    obtain ⟨member, -⟩ := mem_of_call? found
    by_cases same : project = call.project
    · subst same
      exact iff_of_false (sound.not_idle_pollCall member) (not_idle_of_mem member)
    · have lane := sound.lane_pollCall .dropIdle member project
      rw [if_neg (Ne.symm same)] at lane
      exact idle_congr (slot?_pollCall_ne .dropIdle cache same) lane

/-- A slot is idle after a step if it was idle before and no call came for its project, or if the
step drops the last calls for the project. -/
theorem Sound.idle_act_iff (step : Step) :
    (cache.act .dropIdle step).1.Idle project ↔
      (cache.Idle project ∧ step.asksFor project = false) ∨ cache.Abandons project step := by
  cases step with
  | call id other load =>
    by_cases same : other = project
    · subst same
      refine iff_of_false ((sound.cancel id).not_idle_call other (missing_cancel cache id) load) ?_
      rintro (⟨-, silent⟩ | ⟨silent, -⟩) <;> simp [Step.asksFor] at silent
    · have slot := slot?_call_ne .dropIdle (cache.cancel id).1 (Ne.symm same) id load
      have missing := missing_cancel cache id
      have lane := (sound.cancel id).lane_call .dropIdle other missing load project
      rw [if_neg same] at lane
      refine (idle_congr slot lane).trans ?_
      exact sound.idle_cancel_iff project (by simpa [Step.asksFor] using same) fun _ => rfl
  | poll id =>
    refine (sound.idle_poll_iff project id).trans ?_
    exact (or_iff_left (not_abandons_of_kept fun _ => rfl)).trans (and_iff_left rfl) |>.symm
  | cancel id => exact sound.idle_cancel_iff project rfl fun _ => rfl
  | get other =>
    exact (or_iff_left (not_abandons_of_kept fun _ => rfl)).trans (and_iff_left rfl) |>.symm

end Stepping

/-! ## Runs -/

namespace Run

/-- Steps that leave the slot of a project behind: one of them abandons it, and no call comes for
the project after that. -/
def LeavesBehind (project : String) (steps : List Step) : Prop :=
  ∃ before step after, steps = before ++ step :: after ∧
    (start.steps .dropIdle before).cache.Abandons project step ∧
    ∀ later ∈ after, later.asksFor project = false

theorem leavesBehind_concat {project : String} {steps : List Step} {step : Step} :
    LeavesBehind project (steps ++ [step]) ↔
      (LeavesBehind project steps ∧ step.asksFor project = false) ∨
        (start.steps .dropIdle steps).cache.Abandons project step := by
  constructor
  · rintro ⟨before, drop, after, split, abandons, silent⟩
    rcases List.eq_nil_or_concat' after with rfl | ⟨front, last, rfl⟩
    · obtain ⟨rfl, same⟩ := List.append_inj' split rfl
      obtain rfl := List.singleton_inj.mp same
      exact .inr abandons
    · rw [← List.cons_append, ← List.append_assoc] at split
      obtain ⟨rfl, same⟩ := List.append_inj' split rfl
      obtain rfl := List.singleton_inj.mp same
      have earlier : ∀ later ∈ front, later.asksFor project = false :=
        fun later member => silent later (List.mem_append_left _ member)
      exact .inl ⟨⟨before, drop, front, rfl, abandons, earlier⟩, silent step (by simp)⟩
  · rintro (⟨⟨before, drop, after, rfl, abandons, silent⟩, last⟩ | abandons)
    · refine ⟨before, drop, after ++ [step], by simp, abandons, ?_⟩
      intro later member
      rcases List.mem_append.mp member with member | member
      · exact silent later member
      · rw [List.mem_singleton.mp member]
        exact last
    · exact ⟨steps, step, [], rfl, abandons, by simp⟩

/-- The idle slots of a run are those that its steps leave behind. -/
theorem idle_iff_leavesBehind (project : String) (steps : List Step) :
    (start.steps .dropIdle steps).cache.Idle project ↔ LeavesBehind project steps := by
  induction steps using List.reverseRecOn with
  | nil =>
    refine iff_of_false ?_ ?_
    · intro idle
      cases idle.slot
    · rintro ⟨before, step, after, split, -⟩
      simp at split
  | append_singleton steps step ih =>
    rw [leavesBehind_concat, ← ih, steps_append]
    exact (reachable_of_start .dropIdle steps).sound.idle_act_iff project step

/-- A project has a slot in a run exactly if its graph is resident, or a call for it is in flight,
or its last call was dropped without a graph and none has come since. -/
theorem isSome_slot?_iff_of_start (steps : List Step) (project : String) :
    ((start.steps .dropIdle steps).cache.slot? project).isSome = true ↔
      ((start.steps .dropIdle steps).cache.resident? project).isSome = true ∨
        (∃ call ∈ (start.steps .dropIdle steps).cache.calls, call.project = project) ∨
        LeavesBehind project steps := by
  have sound := (reachable_of_start .dropIdle steps).sound
  rw [← idle_iff_leavesBehind]
  generalize (start.steps .dropIdle steps).cache = cache at sound
  constructor
  · intro present
    cases resident : cache.resident? project with
    | some loaded => exact .inl rfl
    | none =>
      by_cases deserted : cache.callsFor project = []
      · exact .inr (.inr ⟨present, resident, deserted⟩)
      · obtain ⟨call, called⟩ := List.exists_mem_of_ne_nil _ deserted
        exact .inr (.inl ⟨call, mem_callsFor.mp called⟩)
  · rintro (resident | ⟨call, member, rfl⟩ | idle)
    · obtain ⟨loaded, resident⟩ := Option.isSome_iff_exists.mp resident
      obtain ⟨slot, found, -⟩ := Option.bind_eq_some_iff.mp resident
      rw [found]
      rfl
    · rw [sound.current call member]
      rfl
    · exact idle.slot

/-- A call that is dropped while its loader runs leaves its slot behind, though nobody waits for
it and no graph is there. -/
theorem slot_left_by_cancelled_call :
    let cache := (start.steps .dropIdle [.call "a" "App" ⟨.ok .null, 1⟩, .cancel "a"]).cache
    (cache.slot? "App").isSome = true ∧ (cache.resident? "App").isSome = false ∧
      ¬ ∃ call ∈ cache.calls, call.project = "App" := by
  decide

end Run

end CallAtlas.Cache
