import CallAtlas.Proofs.Cache.Residents
import CallAtlas.Proofs.Cache.SideBySide

/-!
# Slots dropped and slots kept

Whether idle slots are dropped is seen nowhere. A project whose slot was dropped counts its failures
anew, and one whose slot is kept counts on, so that the counts of both lie apart. But a call only
compares the count that it noted with the number of a later failure, and both lie apart by the same.
-/

namespace CallAtlas

/-- A call that noted so many failures more. -/
def Inquiry.shift (offset : Nat) (inquiry : Inquiry) : Inquiry :=
  { inquiry with failuresSeen := inquiry.failuresSeen + offset }

section Shifting

variable (offset : Nat) (inquiry : Inquiry)

@[simp] theorem Inquiry.stage_shift : (inquiry.shift offset).stage = inquiry.stage := rfl

@[simp] theorem Inquiry.failuresSeen_shift :
    (inquiry.shift offset).failuresSeen = inquiry.failuresSeen + offset := rfl

end Shifting

namespace Ledger

/-- A ledger and one that counts so many failures more, with the same to share for calls that noted
so many more. -/
structure Shifted (offset : Nat) (ledger kept : Ledger) : Prop where
  graph : kept.graph = ledger.graph
  failures : kept.failures = ledger.failures + offset
  shared : ∀ seen, kept.sharedFailure? (seen + offset) = ledger.sharedFailure? seen

/-- As long as there is no graph, the latest failure is kept with its number. -/
def Counted (ledger : Ledger) : Prop :=
  ledger.graph = none → ledger.failures = (ledger.lastFailure.map FailedLoad.attempt).getD 0

variable {offset : Nat} {ledger kept : Ledger}

theorem Shifted.turn_eq (shifted : ledger.Shifted offset kept) (seen : Nat) :
    kept.turn (seen + offset) = ledger.turn seen := by
  rw [turn, turn, shifted.graph, shifted.shared]

theorem Shifted.settle (shifted : ledger.Shifted offset kept) (result : Except Failure Loaded) :
    (ledger.settle result).Shifted offset (kept.settle result) := by
  cases result with
  | ok loaded =>
    exact ⟨congrArg (·.or (some loaded)) shifted.graph, shifted.failures, fun _ => rfl⟩
  | error failure =>
    refine ⟨shifted.graph, ?_, fun seen => ?_⟩
    · have failures := shifted.failures
      simp only [Ledger.settle]
      omega
    · simp only [Ledger.settle, sharedFailure?, shifted.failures]
      exact if_congr (by omega) rfl rfl

theorem counted_settle (ledger : Ledger) (result : Except Failure Loaded) :
    (ledger.settle result).Counted := by
  cases result with
  | ok loaded =>
    intro bare
    simp [Ledger.settle] at bare
  | error failure => exact fun _ => rfl

/-- Who has noted all failures shares none. -/
theorem Counted.sharedFailure?_eq_none (counted : kept.Counted) (bare : kept.graph = none)
    (seen : Nat) : kept.sharedFailure? (seen + kept.failures) = none := by
  have failures := counted bare
  unfold sharedFailure?
  cases last : kept.lastFailure with
  | none => rfl
  | some failed =>
    rw [last, Option.map_some, Option.getD_some] at failures
    exact if_neg (by omega)

end Ledger

namespace Cache

/-- Dropping nothing, a cache stays as it is. -/
@[simp] theorem release_keepIdle (cache : Cache) (project : String) (slot : SlotId) :
    cache.release .keepIdle project slot = cache :=
  if_neg fun idle => nomatch idle.1

namespace Lane

/-- A lane and one whose counts of failures are so much higher. -/
structure Shifted (offset : Nat) (lane kept : Lane) : Prop where
  ledger : lane.toLedger.Shifted offset kept.toLedger
  queue : kept.queue = lane.queue.map (Inquiry.shift offset)

/-- What comes of a lane whose slot may be dropped and of one whose slot is kept: lanes that are
shifted by something, and the same otherwise. -/
structure Agree {α : Type} (dropped kept : Lane × α) : Prop where
  shifted : ∃ offset, Shifted offset dropped.1 kept.1
  same : dropped.2 = kept.2

variable {offset : Nat} {lane kept : Lane} {ledger keptLedger : Ledger}

theorem shifted_start : Shifted 0 {} {} :=
  ⟨⟨rfl, rfl, fun _ => rfl⟩, rfl⟩

theorem depart_keepIdle (lane : Lane) (result : Except Failure Loaded) :
    Lane.depart .keepIdle lane result = lane := by
  cases result with
  | ok loaded => rfl
  | error failure =>
    unfold Lane.depart
    exact if_neg fun idle => nomatch idle.1

/-- A lane that starts anew is shifted by all the failures that were counted. -/
theorem Shifted.depart (shifted : Shifted offset lane kept) (counted : kept.toLedger.Counted)
    (result : Except Failure Loaded) :
    ∃ offset, Shifted offset (Lane.depart .dropIdle lane result)
      (Lane.depart .keepIdle kept result) := by
  rw [depart_keepIdle]
  cases result with
  | ok loaded => exact ⟨offset, shifted⟩
  | error failure =>
    unfold Lane.depart
    dsimp only
    split
    · rename_i idle
      obtain ⟨-, bare, deserted⟩ := idle
      have bare : kept.graph = none :=
        shifted.ledger.graph.trans (Option.isNone_iff_eq_none.mp bare)
      -- One count starts at zero, the other goes on: they lie apart by all that was counted.
      refine ⟨kept.failures, ⟨bare, (Nat.zero_add _).symm, ?_⟩, ?_⟩
      · exact counted.sharedFailure?_eq_none bare
      · rw [shifted.queue, deserted]
        rfl
    · exact ⟨offset, shifted⟩

section Polling

variable (shifted : ledger.Shifted offset keptLedger) (first : Inquiry) (behind : List Inquiry)

include shifted

theorem agree_pollLoader (suspensions : Nat) :
    Agree (pollLoader .dropIdle ledger first behind suspensions)
      (pollLoader .keepIdle keptLedger (first.shift offset) (behind.map (Inquiry.shift offset))
        suspensions) := by
  cases suspensions with
  | zero =>
    have settled : Shifted offset ⟨ledger.settle first.outcome, behind⟩
        ⟨keptLedger.settle first.outcome, behind.map (Inquiry.shift offset)⟩ :=
      ⟨shifted.settle first.outcome, rfl⟩
    exact ⟨settled.depart (Ledger.counted_settle _ _) first.outcome, rfl⟩
  | succ left => exact ⟨⟨offset, shifted, rfl⟩, rfl⟩

variable (counted : keptLedger.Counted)

include counted

theorem agree_takeTurn (turn : Turn) :
    Agree (takeTurn .dropIdle ledger first behind turn)
      (takeTurn .keepIdle keptLedger (first.shift offset) (behind.map (Inquiry.shift offset))
        turn) := by
  cases turn with
  | takes loaded => exact ⟨⟨offset, shifted, rfl⟩, rfl⟩
  | shares failure =>
    have left : Shifted offset ⟨ledger, behind⟩ ⟨keptLedger, behind.map (Inquiry.shift offset)⟩ :=
      ⟨shifted, rfl⟩
    exact ⟨left.depart counted (.error failure), rfl⟩
  | loads =>
    have agree := agree_pollLoader shifted first behind first.load.suspensions
    exact ⟨agree.shifted, congrArg (Progress.mk · .started) agree.same⟩

/-- The first call compares the count that it noted with a number that is shifted as much. -/
theorem agree_pollFirst :
    Agree (pollFirst .dropIdle ledger first behind)
      (pollFirst .keepIdle keptLedger (first.shift offset)
        (behind.map (Inquiry.shift offset))) := by
  unfold pollFirst
  rw [Inquiry.stage_shift, Inquiry.failuresSeen_shift, shifted.turn_eq]
  cases first.stage with
  | loading suspensions =>
    have agree := agree_pollLoader shifted first behind suspensions
    exact ⟨agree.shifted, congrArg (Progress.mk · .resumed) agree.same⟩
  | waiting => exact agree_takeTurn shifted first behind counted _

end Polling

section Stepping

variable (shifted : Shifted offset lane kept)

include shifted

theorem Shifted.leave (id : CallId) : Shifted offset (lane.leave id) (kept.leave id) where
  ledger := shifted.ledger
  queue := by
    unfold Lane.leave
    rw [shifted.queue, List.filter_map]
    rfl

/-- A call that arrives notes counts that lie apart as the counts do. -/
theorem Shifted.enqueue (id : CallId) (load : Load) :
    Shifted offset (lane.enqueue id load) (kept.enqueue id load) where
  ledger := shifted.ledger
  queue := by
    unfold Lane.enqueue
    rw [shifted.queue, shifted.ledger.failures, List.map_append]
    rfl

theorem Shifted.serves_eq (id : CallId) : kept.serves id = lane.serves id := by
  unfold Lane.serves
  rw [shifted.queue, List.any_map]
  rfl

variable (counted : kept.toLedger.Counted)

include counted

theorem Shifted.poll (id : CallId) : Agree (lane.poll .dropIdle id) (kept.poll .keepIdle id) := by
  unfold Lane.poll
  rw [shifted.queue]
  cases lane.queue with
  | nil => exact ⟨⟨offset, shifted⟩, rfl⟩
  | cons first behind =>
    rw [List.map_cons]
    dsimp only
    by_cases same : first.id = id
    · have sameKept : (first.shift offset).id = id := same
      rw [if_pos same, if_pos sameKept]
      exact agree_pollFirst shifted.ledger first behind counted
    · have sameKept : (first.shift offset).id ≠ id := same
      rw [if_neg same, if_neg sameKept]
      exact ⟨⟨offset, shifted⟩, rfl⟩

theorem Shifted.arrive (id : CallId) (load : Load) :
    Agree (lane.arrive .dropIdle id load) (kept.arrive .keepIdle id load) := by
  unfold Lane.arrive
  rw [shifted.ledger.graph]
  cases lane.graph with
  | some loaded => exact ⟨⟨offset, shifted⟩, rfl⟩
  | none => exact (shifted.enqueue id load).poll counted id

/-- A step does the same to lanes that are shifted. -/
theorem Shifted.act (project : String) (step : Step) :
    Agree (lane.act .dropIdle project step) (kept.act .keepIdle project step) := by
  cases step with
  | call id other load =>
    have left := shifted.leave id
    by_cases own : other = project
    · subst own
      rw [act_call_own, act_call_own]
      have agree := left.arrive counted id load
      exact ⟨agree.shifted, congrArg some agree.same⟩
    · rw [act_call_other own, act_call_other own]
      exact ⟨⟨offset, left⟩, rfl⟩
  | poll id =>
    by_cases served : lane.serves id = true
    · rw [act_poll_own project served, act_poll_own project ((shifted.serves_eq id).trans served)]
      have agree := shifted.poll counted id
      exact ⟨agree.shifted, congrArg some agree.same⟩
    · have servedKept : ¬ kept.serves id = true := fun other =>
        served ((shifted.serves_eq id).symm.trans other)
      rw [act_poll_other project served, act_poll_other project servedKept]
      exact ⟨⟨offset, shifted⟩, rfl⟩
  | cancel id => exact ⟨⟨offset, shifted.leave id⟩, rfl⟩
  | get other => exact ⟨⟨offset, shifted⟩, rfl⟩

end Stepping

end Lane

/-! ## Runs -/

/-- A drop finds a call in the lane of its project. -/
theorem cancelled_iff {cache : Cache} {id : CallId} :
    (cache.cancel id).2 = true ↔ ∃ project, (cache.lane project).serves id = true := by
  simp only [serves_lane_iff]
  unfold cancel
  cases found : cache.call? id with
  | none =>
    refine iff_of_false nofun ?_
    rintro ⟨project, call, member, -, same⟩
    exact List.find?_eq_none.mp found call member (decide_eq_true same)
  | some call =>
    obtain ⟨member, same⟩ := mem_of_call? found
    exact iff_of_true rfl ⟨call.project, call, member, rfl, same⟩

/-- What a step answers: what it shows, the loaders that were started by then, and the resident
projects. -/
structure Answer where
  sight : Sight
  loads : List (CallId × String)
  resident : List String

namespace Run

def answer (retention : Retention) (run : Run) (step : Step) : Answer where
  sight := (run.step retention step).2
  loads := (run.step retention step).1.loads
  resident := (run.step retention step).1.cache.residentProjects

/-- What several steps answer, one after another. -/
def answers (retention : Retention) (run : Run) : List Step → List Answer
  | [] => []
  | step :: later =>
    run.answer retention step :: answers retention (run.step retention step).1 later

/-- A run whose cache may drop slots, and one whose cache keeps them. -/
structure Matches (run kept : Run) : Prop where
  reachable : run.cache.Reachable
  reachableKept : kept.cache.Reachable
  keyed : run.cache.Keyed
  keyedKept : kept.cache.Keyed
  lanes : ∀ project, ∃ offset,
    Lane.Shifted offset (run.cache.lane project) (kept.cache.lane project)
  history : run.history = kept.history

theorem matches_start : Matches start start where
  reachable := reachable_start
  reachableKept := reachable_start
  keyed := keyed_start
  keyedKept := keyed_start
  lanes := fun _ => ⟨0, Lane.shifted_start⟩
  history := rfl

variable {run kept : Run} (matched : Matches run kept)

include matched

theorem Matches.agree (step : Step) (project : String) :
    Lane.Agree ((run.cache.lane project).act .dropIdle project step)
      ((kept.cache.lane project).act .keepIdle project step) := by
  obtain ⟨offset, shifted⟩ := matched.lanes project
  exact shifted.act (matched.reachableKept.orderly project).counted project step

theorem Matches.event?_eq (step : Step) :
    run.event? .dropIdle step = kept.event? .keepIdle step :=
  Option.eq_of_filter_eq Event.project fun project =>
    matched.reachable.sound.event_congr matched.reachableKept.sound rfl
      (matched.agree step project).same

theorem Matches.resident?_eq (project : String) :
    run.cache.resident? project = kept.cache.resident? project := by
  obtain ⟨offset, shifted⟩ := matched.lanes project
  rw [resident?_eq_graph, resident?_eq_graph, shifted.ledger.graph]

theorem Matches.cancelled_eq (id : CallId) :
    (run.cache.cancel id).2 = (kept.cache.cancel id).2 := by
  rw [Bool.eq_iff_iff, cancelled_iff, cancelled_iff]
  refine exists_congr fun project => ?_
  obtain ⟨offset, shifted⟩ := matched.lanes project
  rw [shifted.serves_eq]

theorem Matches.sight_eq (step : Step) :
    (run.step .dropIdle step).2 = (kept.step .keepIdle step).2 := by
  show run.sight step (run.event? .dropIdle step) = kept.sight step (kept.event? .keepIdle step)
  rw [matched.event?_eq step]
  cases kept.event? .keepIdle step with
  | some event =>
    show run.sightOf event = kept.sightOf event
    rw [← sightOf_history run, matched.history, sightOf_history]
  | none =>
    cases step with
    | cancel id => exact congrArg Sight.cancelled (matched.cancelled_eq id)
    | get project => exact congrArg Sight.resident (matched.resident?_eq project)
    | call | poll => rfl

theorem Matches.step (next : Step) :
    Matches (run.step .dropIdle next).1 (kept.step .keepIdle next).1 where
  reachable := matched.reachable.act .dropIdle next
  reachableKept := matched.reachableKept.act .keepIdle next
  keyed := matched.keyed.act .dropIdle next
  keyedKept := matched.keyedKept.act .keepIdle next
  lanes := by
    intro project
    obtain ⟨offset, shifted⟩ := (matched.agree next project).shifted
    rw [← matched.reachable.sound.lane_act, ← matched.reachableKept.sound.lane_act] at shifted
    exact ⟨offset, shifted⟩
  history := by
    rw [history_step, history_step, matched.event?_eq next, matched.history]

theorem Matches.answer_eq (next : Step) :
    run.answer .dropIdle next = kept.answer .keepIdle next := by
  have after := matched.step next
  have remembered := congrArg Run.loads after.history
  have loads : (run.step .dropIdle next).1.loads = (kept.step .keepIdle next).1.loads := remembered
  have resident := after.keyed.residentProjects_congr after.keyedKept after.resident?_eq
  rw [answer, answer, matched.sight_eq next, loads, resident]

/-- Both go on alike and answer alike. -/
theorem Matches.steps (steps : List Step) :
    Matches (run.steps .dropIdle steps) (kept.steps .keepIdle steps) ∧
      run.answers .dropIdle steps = kept.answers .keepIdle steps := by
  induction steps generalizing run kept with
  | nil => exact ⟨matched, rfl⟩
  | cons next later ih =>
    obtain ⟨further, answers⟩ := ih (matched.step next)
    refine ⟨further, ?_⟩
    rw [Run.answers, Run.answers, matched.answer_eq next, answers]

theorem Matches.inquiriesFor_eq (project : String) : ∃ offset,
    kept.cache.inquiriesFor project =
      (run.cache.inquiriesFor project).map fun entry => (entry.1.shift offset, entry.2) := by
  obtain ⟨offset, shifted⟩ := matched.lanes project
  refine ⟨offset, ?_⟩
  rw [matched.reachable.sound.inquiriesFor_eq, matched.reachableKept.sound.inquiriesFor_eq,
    shifted.queue, List.map_map, List.map_map, List.head?_map, Option.map_map]
  rfl

omit matched

/-- A run whose cache drops idle slots beside the one whose cache keeps them. -/
structure DropsUnseen (steps : List Step) : Prop where
  /-- The cache that keeps its slots does nothing when a slot could be dropped. -/
  keeps : ∀ (cache : Cache) project slot, cache.release .keepIdle project slot = cache
  answers : start.answers .dropIdle steps = start.answers .keepIdle steps
  /-- The same calls are in flight, of which the same own the locks and stand at the same stage. -/
  calls : ∀ project, ∃ offset,
    (start.steps .keepIdle steps).cache.inquiriesFor project =
      ((start.steps .dropIdle steps).cache.inquiriesFor project).map fun entry =>
        (entry.1.shift offset, entry.2)
  resident : ∀ project, (start.steps .dropIdle steps).cache.resident? project =
    (start.steps .keepIdle steps).cache.resident? project

/-- In no run it is seen whether idle slots are dropped. -/
theorem dropsUnseen_of_start (steps : List Step) : DropsUnseen steps where
  keeps := release_keepIdle
  answers := (matches_start.steps steps).2
  calls := (matches_start.steps steps).1.inquiriesFor_eq
  resident := (matches_start.steps steps).1.resident?_eq

/-- The caches differ: after a failed load only one of them has a slot. -/
example :
    let failed : List Step := [.call "a" "App" ⟨.error (.json ""), 0⟩]
    (start.steps .dropIdle failed).cache.slot? "App" = none ∧
      (start.steps .keepIdle failed).cache.slot? "App" = some 0 := by
  decide

end Run

end Cache

end CallAtlas
