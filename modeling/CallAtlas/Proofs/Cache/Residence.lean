import CallAtlas.Proofs.Cache.Reachable

/-!
# What a load leaves resident

A call that keeps nobody waiting asks the loader only if its project is not resident. It brings its
own project into the cache if the artifact is a call graph, and no other project comes or goes.
-/

namespace CallAtlas.Cache

/-- No call is in flight. -/
structure AtRest (cache : Cache) : Prop where
  sound : cache.Sound
  idle : cache.calls = []

theorem atRest_start : AtRest {} where
  sound := sound_start
  idle := rfl

theorem graph_outcome (call : Inquiry) :
    call.outcome.map Loaded.graph = call.load.outcome.bind CallGraph.ofArtifact := by
  unfold Inquiry.outcome
  cases call.load.outcome.bind CallGraph.ofArtifact with
  | error failure => rfl
  | ok graph => rfl

/-- A load that ends where there was no graph leaves the graph that it brought, if any. -/
theorem Lane.graph_depart (retention : Retention) {ledger : Ledger} (bare : ledger.graph = none)
    (behind : List Inquiry) (outcome : Except Failure Loaded) :
    (Lane.depart retention ⟨ledger.settle outcome, behind⟩ outcome).graph = outcome.toOption := by
  cases outcome with
  | ok loaded =>
    rw [Lane.depart, Ledger.settle, bare]
    rfl
  | error failure =>
    rw [Lane.depart]
    split
    · rfl
    · exact bare

theorem calls_conclude (retention : Retention) (cache : Cache) (call : Call) :
    (cache.conclude retention call).calls =
      cache.calls.filter fun other => other.id ≠ call.id := by
  unfold conclude finish
  cases call.outcome with
  | ok loaded => rfl
  | error failure =>
    have kept : ((cache.settle call).release retention call.project call.slot).calls =
        cache.calls := by
      unfold release
      split <;> rfl
    exact congrArg (List.filter _) kept

/-- A call that arrives where nobody waits is alone. -/
theorem callsFor_alone {cache : Cache} (idle : cache.calls = []) (project : String)
    (slot : SlotId) (id : CallId) (once : Load) :
    (cache.enroll (cache.newCall project slot id once)).callsFor project =
      [cache.newCall project slot id once] := by
  have nobody : cache.callsFor project = [] := by rw [callsFor, idle]; rfl
  refine (callsFor_enroll cache _ project).trans ((if_pos rfl).trans ?_)
  rw [nobody]
  rfl

section Resting

variable {cache : Cache} (atRest : cache.AtRest)

include atRest

theorem AtRest.openSlot (project : String) : (cache.openSlot project).1.AtRest where
  sound := atRest.sound.openSlot project
  idle := (calls_openSlot cache project).trans atRest.idle

variable {project : String} {slot : SlotId} (found : cache.slot? project = some slot)

include found

theorem AtRest.enroll (id : CallId) (once : Load) :
    (cache.enroll (cache.newCall project slot id once)).Sound := by
  apply atRest.sound.enroll found
  rw [atRest.idle]
  simp

/-- A load that nobody waits for leaves nobody behind. -/
theorem AtRest.conclude (id : CallId) (once : Load) :
    ((cache.enroll (cache.newCall project slot id once)).conclude .dropIdle
      (cache.newCall project slot id once)).AtRest where
  sound := (atRest.enroll found id once).conclude .dropIdle
    (callsFor_alone atRest.idle project slot id once)
  idle := by
    rw [calls_conclude]
    show (cache.calls ++ [_]).filter _ = []
    simp [atRest.idle]

/-- A load that nobody waits for leaves its graph, or nothing, and all other lanes as they were. -/
theorem AtRest.graph_conclude (bare : (cache.store slot).graph = none) (id : CallId)
    (once : Load) (other : String) :
    (((cache.enroll (cache.newCall project slot id once)).conclude .dropIdle
        (cache.newCall project slot id once)).lane other).graph =
      if project = other then (cache.newCall project slot id once).outcome.toOption
      else (cache.lane other).graph := by
  have line := callsFor_alone atRest.idle project slot id once
  have enrolled := atRest.enroll found id once
  have own : (cache.newCall project slot id once).project = project := rfl
  generalize cache.newCall project slot id once = call at line enrolled own ⊢
  subst own
  rw [enrolled.lane_conclude .dropIdle line other]
  by_cases same : call.project = other
  · subst same
    rw [if_pos rfl, if_pos rfl, ledger_enroll, ledger_of_slot? found]
    exact Lane.graph_depart .dropIdle bare _ _
  · rw [if_neg same, if_neg same, lane_enroll, if_neg same]

end Resting

/-! ## Calls that keep nobody waiting -/

/-- The loader is asked for nothing but the project. -/
theorem getOrLoad_congr (cache : Cache) {project : String}
    {load other : String → Except Failure Json} (same : load project = other project) :
    cache.getOrLoad project load = cache.getOrLoad project other := by
  unfold getOrLoad
  rw [same]

theorem getOrLoad_of_resident {cache : Cache} {project : String} {loaded : Loaded}
    (resident : cache.resident? project = some loaded) (load : String → Except Failure Json) :
    cache.getOrLoad project load = (cache, .ok loaded.graph, false) := by
  obtain ⟨slot, found, graph⟩ := Option.bind_eq_some_iff.mp resident
  unfold getOrLoad openSlot
  rw [found]
  dsimp only
  rw [graph]

variable {cache : Cache}

section Missing

variable {project : String} (missing : cache.resident? project = none)

include missing

/-- A call for a project that is not resident loads it in the slot that it opens. -/
theorem Sound.getOrLoad_of_missing (sound : cache.Sound) (load : String → Except Failure Json) :
    cache.getOrLoad project load =
      let (opened, slot) := cache.openSlot project
      let call := opened.newCall project slot project ⟨load project, 0⟩
      ((opened.enroll call).conclude .dropIdle call, call.outcome.map Loaded.graph, true) := by
  have bare : ((cache.openSlot project).1.store (cache.openSlot project).2).graph = none := by
    rw [← graph_lane (slot?_openSlot cache project), sound.lane_openSlot, ← resident?_eq_graph]
    exact missing
  unfold Cache.getOrLoad
  dsimp only
  rw [bare]

/-- A call for a project that is not resident asks the loader, and returns what comes of that. -/
theorem Sound.returns_getOrLoad (sound : cache.Sound) (load : String → Except Failure Json) :
    (cache.getOrLoad project load).2 = ((load project).bind CallGraph.ofArtifact, true) := by
  rw [sound.getOrLoad_of_missing missing]
  exact congrArg (·, true) (graph_outcome _)

/-- A load brings what its artifact is made into, and leaves all other projects alone. -/
theorem AtRest.resident?_getOrLoad (atRest : cache.AtRest)
    (load : String → Except Failure Json) (other : String) :
    (cache.getOrLoad project load).1.resident? other =
      if project = other then
        ((load project).bind CallGraph.ofArtifact).toOption.map (Loaded.mk project)
      else cache.resident? other := by
  have opened := atRest.openSlot project
  have found := slot?_openSlot cache project
  have lanes := atRest.sound.lane_openSlot project
  rw [atRest.sound.getOrLoad_of_missing missing]
  rw [resident?_eq_graph, ← lanes, graph_lane found] at missing
  simp only [resident?_eq_graph, ← lanes other]
  refine (opened.graph_conclude found missing project _ other).trans ?_
  split
  · show (((load project).bind CallGraph.ofArtifact).map (Loaded.mk project)).toOption = _
    cases (load project).bind CallGraph.ofArtifact <;> rfl
  · rfl

end Missing

/-- A call that keeps nobody waiting leaves nobody behind. -/
theorem AtRest.getOrLoad (atRest : cache.AtRest) (project : String)
    (load : String → Except Failure Json) : (cache.getOrLoad project load).1.AtRest := by
  cases resident : cache.resident? project with
  | some loaded =>
    rw [getOrLoad_of_resident resident]
    exact atRest
  | none =>
    rw [atRest.sound.getOrLoad_of_missing resident]
    exact (atRest.openSlot project).conclude (slot?_openSlot cache project) project _

end CallAtlas.Cache
