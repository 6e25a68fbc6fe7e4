import CallAtlas.Proofs.Cache.Sound

/-!
# What operations do to lanes

Each operation of a cache keeps it sound, and what it does to the lanes is said once here: a slot
that is made is not seen, a call that arrives stands behind all others of its lane, and a call that
ends leaves the front of its lane and touches no other.
-/

namespace CallAtlas.Cache

section Writing

variable (cache : Cache) (project : String) (slot : SlotId) (change : Slot → Slot)

@[simp] theorem calls_write : (cache.write slot change).calls = cache.calls := rfl

@[simp] theorem slot?_write : (cache.write slot change).slot? project = cache.slot? project := rfl

@[simp] theorem store_write_self :
    (cache.write slot change).store slot = change (cache.store slot) := by
  simp [write]

theorem store_write_ne {other : SlotId} (different : other ≠ slot) :
    (cache.write slot change).store other = cache.store other := by
  simp [write, different]

theorem ledger_of_slot? {cache : Cache} {project : String} {slot : SlotId}
    (found : cache.slot? project = some slot) :
    cache.ledger project = (cache.store slot).toLedger := by
  simp [ledger, found]

/-- A change of locks is not seen by ledgers. -/
theorem ledger_write_lock (kept : ∀ old, (change old).toLedger = old.toLedger) :
    (cache.write slot change).ledger project = cache.ledger project := by
  cases found : cache.slot? project with
  | none => simp [ledger, found]
  | some own =>
    by_cases same : own = slot
    · simp [ledger, found, same, kept]
    · simp [ledger, found, store_write_ne _ _ _ same]

end Writing

/-! ## Making a slot -/

section Making

variable {cache : Cache} (sound : cache.Sound) {project other : String} {slot : SlotId}

theorem slot?_make_self (cache : Cache) (project : String) :
    (cache.make project).slot? project = some cache.made := by
  simp [slot?, make, write]

theorem slot?_make_ne (cache : Cache) (different : other ≠ project) :
    (cache.make project).slot? other = cache.slot? other := by
  simp [slot?, make, write, List.lookup_cons, beq_eq_false_iff_ne.mpr different]

include sound in
theorem Sound.store_make (found : cache.slot? other = some slot) :
    (cache.make project).store slot = cache.store slot :=
  store_write_ne _ _ _ (Nat.ne_of_lt (sound.made _ (mem_slots_of_slot? found)))

theorem slot?_make_of_slot? (absent : cache.slot? project = none)
    (found : cache.slot? other = some slot) : (cache.make project).slot? other = some slot := by
  have different : other ≠ project := by
    rintro rfl
    rw [absent] at found
    cases found
  rw [slot?_make_ne cache different, found]

include sound in
theorem Sound.make (absent : cache.slot? project = none) : (cache.make project).Sound where
  names := sound.names
  slots := by
    refine List.nodup_cons.mpr ⟨?_, sound.slots⟩
    intro member
    obtain ⟨entry, present, same⟩ := List.mem_map.mp member
    exact Nat.ne_of_lt (sound.made entry present) same
  made := by
    intro entry member
    rcases List.mem_cons.mp member with rfl | member
    · exact Nat.lt_succ_self _
    · exact Nat.lt_succ_of_lt (sound.made entry member)
  current := by
    intro call member
    exact slot?_make_of_slot? absent (sound.current call member)
  locks := by
    intro other slot found
    by_cases same : other = project
    · subst same
      obtain rfl := Option.some.inj ((slot?_make_self cache other).symm.trans found)
      have empty : (cache.make other).callsFor other = [] := sound.callsFor_eq_nil absent
      rw [empty]
      exact congrArg Slot.lock (store_write_self _ _ _)
    · rw [slot?_make_ne cache same] at found
      rw [sound.store_make found]
      exact sound.locks other slot found

include sound in
/-- A new slot shows what was seen without it. -/
theorem Sound.ledger_make (absent : cache.slot? project = none) (other : String) :
    (cache.make project).ledger other = cache.ledger other := by
  by_cases same : other = project
  · subst same
    rw [ledger_of_slot? (slot?_make_self cache other), ledger, absent]
    exact congrArg Slot.toLedger (store_write_self _ _ _)
  · cases found : cache.slot? other with
    | none => simp [ledger, slot?_make_ne cache same, found]
    | some slot =>
      rw [ledger_of_slot? (slot?_make_of_slot? absent found), ledger_of_slot? found,
        sound.store_make found]

theorem slot?_openSlot (cache : Cache) (project : String) :
    (cache.openSlot project).1.slot? project = some (cache.openSlot project).2 := by
  unfold openSlot
  cases found : cache.slot? project with
  | none => exact slot?_make_self cache project
  | some slot => exact found

theorem calls_openSlot (cache : Cache) (project : String) :
    (cache.openSlot project).1.calls = cache.calls := by
  unfold openSlot
  cases cache.slot? project <;> rfl

include sound in
theorem Sound.openSlot (project : String) : (cache.openSlot project).1.Sound := by
  unfold Cache.openSlot
  cases absent : cache.slot? project with
  | none => exact sound.make absent
  | some slot => exact sound

include sound in
theorem Sound.lane_openSlot (project other : String) :
    (cache.openSlot project).1.lane other = cache.lane other := by
  unfold Cache.openSlot
  cases absent : cache.slot? project with
  | none => simp only [lane, sound.ledger_make absent other]; rfl
  | some slot => rfl

end Making

/-! ## Arriving -/

section Arriving

variable {cache : Cache} {call : Call}

theorem callsFor_enroll (cache : Cache) (call : Call) (project : String) :
    (cache.enroll call).callsFor project =
      if call.project = project then cache.callsFor project ++ [call]
      else cache.callsFor project := by
  by_cases same : call.project = project <;> simp [callsFor, enroll, same]

theorem ledger_enroll (cache : Cache) (call : Call) (project : String) :
    (cache.enroll call).ledger project = cache.ledger project :=
  ledger_write_lock _ _ _ _ fun _ => rfl

theorem Sound.enroll (sound : cache.Sound) (found : cache.slot? call.project = some call.slot)
    (fresh : ∀ other ∈ cache.calls, other.id ≠ call.id) : (cache.enroll call).Sound where
  names := by
    refine (List.map_append ▸ List.nodup_append.mpr ⟨sound.names, List.nodup_singleton _, ?_⟩)
    simpa using fresh
  slots := sound.slots
  made := sound.made
  current := by
    intro other member
    rcases List.mem_append.mp member with member | member
    · exact sound.current other member
    · rw [List.mem_singleton.mp member]
      exact found
  locks := by
    intro project slot foundSlot
    have before := sound.locks project slot foundSlot
    rw [callsFor_enroll]
    by_cases same : call.project = project
    · subst same
      obtain rfl := Option.some.inj (found.symm.trans foundSlot)
      rw [if_pos rfl, List.map_append]
      refine Eq.trans ?_ (FairLock.request_ofLine _ _)
      rw [← before]
      exact congrArg Slot.lock (store_write_self _ _ _)
    · -- The lock of another project stands in another slot.
      have different : slot ≠ call.slot := by
        rintro rfl
        exact same (sound.project_unique found foundSlot)
      rw [if_neg same, ← before]
      exact congrArg Slot.lock (store_write_ne _ _ _ different)

theorem lane_enroll (cache : Cache) (call : Call) (project : String) :
    (cache.enroll call).lane project =
      if call.project = project then
        ⟨cache.ledger project, (cache.lane project).queue ++ [call.toInquiry]⟩
      else cache.lane project := by
  unfold lane
  rw [callsFor_enroll, ledger_enroll]
  by_cases same : call.project = project <;> simp [same]

end Arriving

/-! ## Getting on -/

section GettingOn

variable {cache : Cache} {call : Call} (sound : cache.Sound) (member : call ∈ cache.calls)

theorem restage_id (id : CallId) (stage : Stage) (call : Call) :
    (call.restage id stage).id = call.id := by
  unfold Call.restage; split <;> rfl

theorem restage_project (id : CallId) (stage : Stage) (call : Call) :
    (call.restage id stage).project = call.project := by
  unfold Call.restage; split <;> rfl

theorem restage_slot (id : CallId) (stage : Stage) (call : Call) :
    (call.restage id stage).slot = call.slot := by
  unfold Call.restage; split <;> rfl

theorem map_restage_of_missing {id : CallId} (stage : Stage) {calls : List Call}
    (missing : ∀ call ∈ calls, call.id ≠ id) : calls.map (Call.restage id stage) = calls := by
  refine (List.map_congr_left fun call member => ?_).trans (List.map_id calls)
  exact if_neg (missing call member)

theorem callsFor_advance (cache : Cache) (call : Call) (stage : Stage) (project : String) :
    (cache.advance call stage).callsFor project =
      (cache.callsFor project).map (Call.restage call.id stage) := by
  show (cache.calls.map (Call.restage call.id stage)).filter _ = _
  rw [List.filter_map]
  refine congrArg (List.map _) (List.filter_congr ?_)
  intro other _
  simp [restage_project]

include sound in
theorem Sound.advance (stage : Stage) : (cache.advance call stage).Sound where
  names := by
    show ((cache.calls.map (Call.restage call.id stage)).map fun call => call.id).Nodup
    simpa only [List.map_map, Function.comp_def, restage_id] using sound.names
  slots := sound.slots
  made := sound.made
  current := by
    intro other member
    obtain ⟨old, present, rfl⟩ := List.mem_map.mp member
    rw [restage_project, restage_slot]
    exact sound.current old present
  locks := by
    intro project slot found
    rw [callsFor_advance]
    simp only [List.map_map, Function.comp_def, restage_id]
    exact sound.locks project slot found

include sound in
/-- The other calls of a lane have other names than its first. -/
theorem Sound.behind_missing {project : String} {first : Call} {behind : List Call}
    (line : cache.callsFor project = first :: behind) :
    ∀ other ∈ behind, other.id ≠ first.id := by
  have distinct := sound.callsFor_names project
  rw [line, List.map_cons, List.nodup_cons] at distinct
  intro other present same
  exact distinct.1 (List.mem_map.mpr ⟨other, present, same⟩)

include sound member in
/-- The calls for other projects have other names. -/
theorem Sound.elsewhere_missing {project : String} (elsewhere : call.project ≠ project) :
    ∀ other ∈ cache.callsFor project, other.id ≠ call.id := by
  intro other present same
  obtain ⟨inFlight, rfl⟩ := mem_callsFor.mp present
  exact elsewhere (congrArg Call.project (sound.call_unique member inFlight same.symm))

theorem callsFor_retire (cache : Cache) (call : Call) (project : String) :
    (cache.retire call).callsFor project =
      (cache.callsFor project).filter fun other => other.id ≠ call.id := by
  show (cache.calls.filter _).filter _ = (cache.calls.filter _).filter _
  simp only [List.filter_filter]
  refine List.filter_congr fun other _ => ?_
  exact Bool.and_comm _ _

theorem ledger_retire (cache : Cache) (call : Call) (project : String) :
    (cache.retire call).ledger project = cache.ledger project :=
  ledger_write_lock _ _ _ _ fun _ => rfl

theorem lane_retire (cache : Cache) (call : Call) (project : String) :
    (cache.retire call).lane project = (cache.lane project).leave call.id := by
  unfold lane Lane.leave
  rw [callsFor_retire, ledger_retire, List.filter_map]
  rfl

include sound member in
theorem Sound.callsFor_retire_elsewhere {project : String} (elsewhere : call.project ≠ project) :
    (cache.retire call).callsFor project = cache.callsFor project := by
  rw [callsFor_retire, List.filter_eq_self]
  simpa using sound.elsewhere_missing member elsewhere

include sound member in
theorem Sound.slot_ne_of_elsewhere {project : String} {slot : SlotId}
    (found : cache.slot? project = some slot) (elsewhere : call.project ≠ project) :
    slot ≠ call.slot := by
  rintro rfl
  exact elsewhere (sound.project_unique (sound.current call member) found)

include sound member in
theorem Sound.retire : (cache.retire call).Sound where
  names := sound.names.sublist (List.filter_sublist.map _)
  slots := sound.slots
  made := sound.made
  current := by
    intro other present
    exact sound.current other (List.mem_filter.mp present).1
  locks := by
    intro project slot found
    have before := sound.locks project slot found
    by_cases same : call.project = project
    · subst same
      obtain rfl := Option.some.inj ((sound.current call member).symm.trans found)
      rw [callsFor_retire]
      have left := FairLock.leave_ofLine _ call.id (sound.callsFor_names call.project)
      rw [List.filter_map] at left
      refine Eq.trans ?_ left
      rw [← before]
      exact congrArg Slot.lock (store_write_self _ _ _)
    · have different := sound.slot_ne_of_elsewhere member found same
      rw [sound.callsFor_retire_elsewhere member same, ← before]
      exact congrArg Slot.lock (store_write_ne _ _ _ different)

end GettingOn

/-! ## Ending a load -/

section Ending

variable {cache : Cache} (sound : cache.Sound) {call : Call} {behind : List Call}

include sound in
/-- A change of ledgers is not seen by locks. -/
theorem Sound.write_ledger (slot : SlotId) (change : Slot → Slot)
    (kept : ∀ old, (change old).lock = old.lock) : (cache.write slot change).Sound where
  names := sound.names
  slots := sound.slots
  made := sound.made
  current := sound.current
  locks := by
    intro project own found
    refine Eq.trans ?_ (sound.locks project own found)
    by_cases same : own = slot
    · rw [same, store_write_self, kept]
    · rw [store_write_ne _ _ _ same]

include sound in
theorem Sound.ledger_write (slot : SlotId) (change : Slot → Slot) {own : String}
    (found : cache.slot? own = some slot) (project : String) :
    (cache.write slot change).ledger project =
      if own = project then (change (cache.store slot)).toLedger else cache.ledger project := by
  have same_slot : (cache.write slot change).slot? project = cache.slot? project := rfl
  by_cases same : own = project
  · subst same
    rw [if_pos rfl, ledger_of_slot? (same_slot.trans found), store_write_self]
  · rw [if_neg same]
    cases foundOther : cache.slot? project with
    | none => simp [ledger, foundOther]
    | some other =>
      have different : other ≠ slot := by
        rintro rfl
        exact same (sound.project_unique found foundOther)
      rw [ledger_of_slot? (same_slot.trans foundOther), ledger_of_slot? foundOther,
        store_write_ne _ _ _ different]

theorem slot?_forget_self (cache : Cache) (project : String) :
    (cache.forget project).slot? project = none := by
  apply List.lookup_eq_none_iff.mpr
  intro entry member
  have different := (List.mem_filter.mp member).2
  rw [decide_eq_true_eq] at different
  exact bne_iff_ne.mpr different.symm

theorem slot?_forget_ne (cache : Cache) {project other : String} (different : other ≠ project) :
    (cache.forget project).slot? other = cache.slot? other := by
  show (cache.slots.filter fun entry => entry.1 ≠ project).lookup other = cache.slots.lookup other
  induction cache.slots with
  | nil => rfl
  | cons entry entries ih =>
    obtain ⟨key, slot⟩ := entry
    by_cases gone : key = project
    · subst gone
      rw [List.filter_cons_of_neg (by simp), ih, List.lookup_cons,
        beq_eq_false_iff_ne.mpr different]
    · rw [List.filter_cons_of_pos (by simpa using gone), List.lookup_cons, List.lookup_cons, ih]

theorem mem_of_line {cache : Cache} {project : String} {call : Call} {behind : List Call}
    (line : cache.callsFor project = call :: behind) :
    call ∈ cache.calls ∧ call.project = project :=
  mem_callsFor.mp (line ▸ List.mem_cons_self)

include sound in
/-- The call that is alone in its lane leaves a sound cache, also if its slot is dropped. -/
theorem Sound.retire_forget (line : cache.callsFor call.project = [call]) :
    ((cache.forget call.project).retire call).Sound where
  names := sound.names.sublist (List.filter_sublist.map _)
  slots := sound.slots.sublist (List.filter_sublist.map _)
  made := by
    intro entry member
    exact sound.made entry (List.mem_filter.mp member).1
  current := by
    intro other present
    obtain ⟨inFlight, different⟩ := List.mem_filter.mp present
    have elsewhere : other.project ≠ call.project := by
      intro same
      have member : other ∈ cache.callsFor call.project := mem_callsFor.mpr ⟨inFlight, same⟩
      rw [line, List.mem_singleton] at member
      simp [member] at different
    exact (slot?_forget_ne cache elsewhere).trans (sound.current other inFlight)
  locks := by
    intro project slot found
    obtain ⟨member, -⟩ := mem_of_line line
    have found : (cache.forget call.project).slot? project = some slot := found
    have elsewhere : call.project ≠ project := by
      rintro rfl
      rw [slot?_forget_self] at found
      cases found
    rw [slot?_forget_ne cache elsewhere.symm] at found
    have kept : ((cache.forget call.project).retire call).callsFor project =
        cache.callsFor project := sound.callsFor_retire_elsewhere member elsewhere
    rw [kept, ← sound.locks project slot found]
    exact congrArg Slot.lock
      (store_write_ne _ _ _ (sound.slot_ne_of_elsewhere member found elsewhere))

include sound in
/-- The first call leaves its lane, and the others stay as they are. -/
theorem Sound.lane_retire_first (line : cache.callsFor call.project = call :: behind)
    (project : String) :
    (cache.retire call).lane project =
      if call.project = project then ⟨cache.ledger project, behind.map Call.toInquiry⟩
      else cache.lane project := by
  obtain ⟨member, -⟩ := mem_of_line line
  unfold lane
  rw [ledger_retire]
  by_cases same : call.project = project
  · subst same
    have left : (cache.retire call).callsFor call.project = behind := by
      rw [callsFor_retire, line, List.filter_cons_of_neg (by simp), List.filter_eq_self]
      simpa using sound.behind_missing line
    rw [if_pos rfl, left]
  · rw [if_neg same, sound.callsFor_retire_elsewhere member same]

include sound in
theorem Sound.lane_retire_forget (line : cache.callsFor call.project = [call])
    (project : String) :
    ((cache.forget call.project).retire call).lane project =
      if call.project = project then {} else cache.lane project := by
  have queue : ((cache.forget call.project).retire call).callsFor project =
      (cache.retire call).callsFor project := rfl
  have left := sound.lane_retire_first line project
  unfold lane at left ⊢
  rw [ledger_retire] at left
  rw [ledger_retire, queue]
  by_cases same : call.project = project
  · subst same
    rw [if_pos rfl] at left ⊢
    have gone : (cache.forget call.project).ledger call.project = {} := by
      simp [ledger, slot?_forget_self]
    rw [gone]
    exact congrArg (Lane.mk {}) (congrArg Lane.queue left)
  · have kept : (cache.forget call.project).ledger project = cache.ledger project := by
      rw [ledger, slot?_forget_ne cache (Ne.symm same)]
      rfl
    rw [kept, left, if_neg same, if_neg same]

include sound in
theorem Sound.release_eq (retention : Retention)
    (line : cache.callsFor call.project = call :: behind) :
    cache.release retention call.project call.slot =
      if retention = .dropIdle ∧ (cache.ledger call.project).graph.isNone ∧ behind = [] then
        cache.forget call.project
      else cache := by
  have found := sound.current call (mem_of_line line).1
  have alone : cache.handles call.slot = 2 ↔ behind = [] := by
    rw [sound.handles_eq found, line, List.length_cons, ← List.length_eq_zero_iff]
    omega
  unfold release
  rw [ledger_of_slot? found]
  simp only [found, alone, true_and]
  exact if_congr (and_congr_right fun _ => And.comm) rfl rfl

include sound in
theorem Sound.finish (retention : Retention) (result : Except Failure Loaded)
    (line : cache.callsFor call.project = call :: behind) :
    (cache.finish retention call result).Sound := by
  have member := (mem_of_line line).1
  cases result with
  | ok loaded => exact sound.retire member
  | error failure =>
    unfold Cache.finish
    simp only
    rw [sound.release_eq retention line]
    split
    · rename_i drops
      obtain ⟨-, -, rfl⟩ := drops
      exact sound.retire_forget line
    · exact sound.retire member

include sound in
/-- A call that ends leaves its lane as the result says. -/
theorem Sound.lane_finish (retention : Retention) (result : Except Failure Loaded)
    (line : cache.callsFor call.project = call :: behind) (project : String) :
    (cache.finish retention call result).lane project =
      if call.project = project then
        Lane.depart retention ⟨cache.ledger project, behind.map Call.toInquiry⟩ result
      else cache.lane project := by
  cases result with
  | ok loaded => exact sound.lane_retire_first line project
  | error failure =>
    unfold Cache.finish
    simp only
    rw [sound.release_eq retention line]
    split
    · rename_i drops
      obtain ⟨drop, bare, rfl⟩ := drops
      rw [sound.lane_retire_forget line]
      refine if_ctx_congr Iff.rfl ?_ fun _ => rfl
      rintro rfl
      simp [Lane.depart, drop, bare]
    · rename_i keeps
      rw [sound.lane_retire_first line]
      refine if_ctx_congr Iff.rfl ?_ fun _ => rfl
      rintro rfl
      simp only [Lane.depart, List.map_eq_nil_iff]
      rw [if_neg keeps]

end Ending

end CallAtlas.Cache
