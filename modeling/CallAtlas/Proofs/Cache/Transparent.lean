import CallAtlas.Proofs.Cache.Residence

/-!
# Caches that nobody waits for

If no call is in flight and every graph came from one loader, a call returns what it would without
the cache: the graph of the artifact that the loader gives now.
-/

namespace CallAtlas.Cache

/-- Nobody waits, and every resident graph is that of the artifact that the loader gives. -/
structure Faithful (cache : Cache) (load : String → Except Failure Json) : Prop where
  sound : cache.Sound
  idle : cache.calls = []
  resident : ∀ project loaded, cache.resident? project = some loaded →
    (load project).bind CallGraph.ofArtifact = .ok loaded.graph

theorem faithful_start (load : String → Except Failure Json) : Faithful {} load where
  sound := sound_start
  idle := rfl
  resident := nofun

section Faithfulness

variable {cache : Cache} {load : String → Except Failure Json} (faithful : cache.Faithful load)

include faithful

theorem Faithful.atRest : cache.AtRest :=
  ⟨faithful.sound, faithful.idle⟩

/-- A cache is as faithful to a loader that differs only where nothing is resident. -/
theorem Faithful.of_agree {other : String → Except Failure Json}
    (agree : ∀ project, (cache.resident? project).isSome → other project = load project) :
    cache.Faithful other where
  sound := faithful.sound
  idle := faithful.idle
  resident := by
    intro project loaded found
    rw [agree project (Option.isSome_iff_exists.mpr ⟨loaded, found⟩)]
    exact faithful.resident project loaded found

/-- A call that keeps nobody waiting returns what it would without the cache. -/
theorem Faithful.getOrLoad (project : String) :
    (cache.getOrLoad project load).1.Faithful load ∧
      (cache.getOrLoad project load).2.1 = (load project).bind CallGraph.ofArtifact := by
  cases resident : cache.resident? project with
  | some loaded =>
    rw [getOrLoad_of_resident resident]
    exact ⟨faithful, (faithful.resident project loaded resident).symm⟩
  | none =>
    have after := faithful.atRest.getOrLoad project load
    refine ⟨⟨after.sound, after.idle, fun other loaded there => ?_⟩,
      congrArg Prod.fst (faithful.sound.returns_getOrLoad resident load)⟩
    rw [faithful.atRest.resident?_getOrLoad resident] at there
    split at there
    · rename_i same
      subst same
      cases brought : (load project).bind CallGraph.ofArtifact with
      | error failure =>
        rw [brought] at there
        cases there
      | ok graph =>
        rw [brought] at there
        obtain rfl := Option.some.inj there
        rfl
    · exact faithful.resident other loaded there

end Faithfulness

end CallAtlas.Cache
