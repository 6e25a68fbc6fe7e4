import CallAtlas.Proofs.Workspace.ClickKey

/-!
# Clicks on relative paths

A relative path is taken as relative to the root, so a click on it and a click on the same path
behind the root ask for the same: below every absolute root, below the current directory, and
wherever the path does not itself start with the root. A relative path that starts with a relative
root is taken from behind the root instead, and there the two clicks never ask for the same.
-/

namespace CallAtlas

/-- Two clicks of which both ask for the same or both are refused. -/
def Agree (one other : Except Failure Query) : Prop :=
  ∀ query, one = .ok query ↔ other = .ok query

namespace Workspace

variable (workspace : Workspace)

/-- The click on the same path behind the root. -/
def behindRoot (click : Click) : Click :=
  { click with path := (workspace.root.push click.path).text }

/-- The components of the root that lead somewhere, if a path starts with the root. -/
def skipped (path : Path) : List Component :=
  if workspace.root.components <+: path.components then
    workspace.root.components.filter fun part => !part.isCurrent
  else []

variable {workspace} {path : Path} {click : Click} {query : Query}

/-- The components of a relative path that lead somewhere are those of its segments. -/
theorem filter_components (relative : path.isAbsolute = false) :
    path.components.filter (fun part => !part.isCurrent) =
      (Path.segments path.text).map Path.ofSegment := by
  have front : (Path.start path.text.toList).filter (fun part => !part.isCurrent) = [] := by
    have noSlash : path.text.toList.head? ≠ some '/' := beq_eq_false_iff_ne.mp relative
    rw [Path.start, if_neg noSlash]
    split <;> rfl
  rw [Path.components, List.filter_append, front, List.nil_append, Path.filterMap_componentOf?]
  refine List.filter_eq_self.mpr fun component member => ?_
  obtain ⟨segment, -, rfl⟩ := List.mem_map.mp member
  rw [isCurrent_ofSegment]
  rfl

/-- Behind the root a relative path leads where its segments lead. -/
theorem stepsBelow?_push (relative : path.isAbsolute = false) :
    workspace.stepsBelow? (workspace.root.push path.text) =
      some ((Path.segments path.text).map Path.ofSegment) := by
  by_cases empty : workspace.root.text.toList = []
  · -- The empty root has no components, so the path is as it was and everything is below.
    have whole : path.components = workspace.root.components ++ path.components := by
      rw [Path.components_of_empty empty, List.nil_append]
    rw [Path.push_of_empty relative empty, stepsBelow?, below?_eq whole, Option.map_some,
      filter_components relative]
  · have behind := Path.components_push relative empty
    rw [stepsBelow?, below?_eq behind, Option.map_some, Path.filterMap_componentOf?]
    refine congrArg some (List.filter_eq_self.mpr fun component member => ?_)
    obtain ⟨segment, -, rfl⟩ := List.mem_map.mp member
    rw [isCurrent_ofSegment]
    rfl

/-- A relative path leads where its segments lead, but for the root if it starts with that. -/
theorem stepsBelow?_of_relative (workspace : Workspace) (relative : path.isAbsolute = false) :
    ∃ steps, workspace.stepsBelow? path = some steps ∧
      (Path.segments path.text).map Path.ofSegment = workspace.skipped path ++ steps := by
  rw [← filter_components relative, skipped]
  by_cases starts : workspace.root.components <+: path.components
  · obtain ⟨rest, split⟩ := starts
    refine ⟨rest.filter fun part => !part.isCurrent, ?_, ?_⟩
    · rw [stepsBelow?, below?_eq split.symm]
      rfl
    · rw [if_pos ⟨rest, split⟩, ← split, List.filter_append]
  · have outside : List.isPrefixOf? workspace.root.components path.components = none := by
      cases found : List.isPrefixOf? workspace.root.components path.components with
      | none => rfl
      | some rest => exact absurd ⟨rest, List.isPrefixOf?_eq_some_iff_append_eq.mp found⟩ starts
    refine ⟨path.components.filter fun part => !part.isCurrent, ?_, ?_⟩
    · rw [stepsBelow?, below?, outside]
      simp [relative]
    · rw [if_neg starts, List.nil_append]

theorem mk_path_behindRoot (workspace : Workspace) (click : Click) :
    Path.mk (workspace.behindRoot click).path = workspace.root.push click.path :=
  rfl

theorem query_behindRoot_of_steps
    (same : workspace.stepsBelow? (workspace.root.push click.path) =
      workspace.stepsBelow? ⟨click.path⟩) :
    Agree (workspace.query click) (workspace.query (workspace.behindRoot click)) := by
  intro query
  constructor
  · intro accepted
    exact query_of_steps accepted same
  · intro accepted
    exact query_of_steps accepted same.symm

section Relative

variable (relative : (Path.mk click.path).isAbsolute = false)

include relative

/-- Where nothing is skipped, it makes no difference whether the root is written. -/
theorem agree_of_skipped_eq_nil (nothing : workspace.skipped ⟨click.path⟩ = []) :
    Agree (workspace.query click) (workspace.query (workspace.behindRoot click)) := by
  apply query_behindRoot_of_steps
  obtain ⟨steps, below, split⟩ := workspace.stepsBelow?_of_relative relative
  rw [nothing, List.nil_append] at split
  rw [stepsBelow?_push relative, below, split]

/-- Where something is skipped, the two clicks never ask for the same. -/
theorem query_behindRoot_ne (something : workspace.skipped ⟨click.path⟩ ≠ [])
    (accepted : workspace.query click = .ok query) :
    workspace.query (workspace.behindRoot click) ≠ .ok query := by
  intro acceptedBehind
  obtain ⟨steps, below, split⟩ := workspace.stepsBelow?_of_relative relative
  have behind := steps_of_query acceptedBehind
  rw [mk_path_behindRoot, ← steps_of_query accepted, stepsBelow?_push relative, below] at behind
  have same := Option.some.inj behind
  rw [split] at same
  exact something (List.append_left_eq_self.mp same)

end Relative

/-- A path that is not absolute does not start with an absolute root. -/
theorem skipped_of_isAbsolute (absolute : workspace.root.isAbsolute = true)
    (relative : path.isAbsolute = false) : workspace.skipped path = [] := by
  refine if_neg fun starts => ?_
  obtain ⟨rest, split⟩ := starts
  have front : path.components.head? = some .root := by
    rw [← split, List.head?_append, Path.isAbsolute_iff.mp absolute]
    rfl
  rw [Path.isAbsolute_iff.mpr front] at relative
  cases relative

theorem skipped_of_standing (standing : ∀ part ∈ workspace.root.components, part = .current)
    (path : Path) : workspace.skipped path = [] := by
  unfold skipped
  split
  · refine List.filter_eq_nil_iff.mpr fun part member => ?_
    rw [standing part member]
    decide
  · rfl

theorem skipped_ne_nil (starts : workspace.root.components <+: path.components)
    (leads : ∃ part ∈ workspace.root.components, part ≠ .current) :
    workspace.skipped path ≠ [] := by
  obtain ⟨part, member, different⟩ := leads
  rw [skipped, if_pos starts]
  refine List.ne_nil_of_mem (List.mem_filter.mpr ⟨member, ?_⟩)
  rw [show part.isCurrent = false from beq_eq_false_iff_ne.mpr different]
  rfl

/-- How clicks on relative paths are read in a workspace. -/
structure ReadsRelative (workspace : Workspace) : Prop where
  absolute : workspace.root.isAbsolute = true → ∀ click : Click,
    (Path.mk click.path).isAbsolute = false →
      Agree (workspace.query click) (workspace.query (workspace.behindRoot click))
  /-- The root may be the current directory, however it is written. -/
  standing : (∀ part ∈ workspace.root.components, part = .current) → ∀ click : Click,
    (Path.mk click.path).isAbsolute = false →
      Agree (workspace.query click) (workspace.query (workspace.behindRoot click))
  elsewhere : ∀ click : Click, (Path.mk click.path).isAbsolute = false →
    ¬ workspace.root.components <+: (Path.mk click.path).components →
      Agree (workspace.query click) (workspace.query (workspace.behindRoot click))
  /-- Only a path that starts with a root that leads somewhere is read in another way. -/
  through : ∀ click : Click, (Path.mk click.path).isAbsolute = false →
    workspace.root.components <+: (Path.mk click.path).components →
    (∃ part ∈ workspace.root.components, part ≠ .current) →
      (Agree (workspace.query click) (workspace.query (workspace.behindRoot click)) ↔
        ∀ query, workspace.query click ≠ .ok query ∧
          workspace.query (workspace.behindRoot click) ≠ .ok query)

/-- In every workspace a click on a relative path asks for what it asks for behind the root, unless
the path starts with the root. -/
theorem readsRelative (workspace : Workspace) : workspace.ReadsRelative where
  absolute := fun absolute _ relative =>
    agree_of_skipped_eq_nil relative (skipped_of_isAbsolute absolute relative)
  standing := fun standing click relative =>
    agree_of_skipped_eq_nil relative (skipped_of_standing standing ⟨click.path⟩)
  elsewhere := fun _ relative outside => agree_of_skipped_eq_nil relative (if_neg outside)
  through := by
    intro click relative starts leads
    have something := skipped_ne_nil starts leads
    constructor
    · intro agree query
      constructor
      · intro accepted
        exact query_behindRoot_ne relative something accepted ((agree query).mp accepted)
      · intro accepted
        exact query_behindRoot_ne relative something ((agree query).mpr accepted) accepted
    · intro refused query
      exact iff_of_false (refused query).1 (refused query).2

/-- A path that starts with the root `ws` is taken from behind it, though it is relative: behind the
root it would lead to the directory `ws/ws`, which has no such sources. -/
theorem query_of_path_through_root :
    let workspace : Workspace := ⟨⟨"ws"⟩⟩
    let click : Click := ⟨"ws/App/project/src/a.js", 1, "f"⟩
    (Path.mk click.path).isAbsolute = false ∧
      workspace.query click = .ok ⟨"App", "a.js", 1, "f"⟩ ∧
      workspace.query (workspace.behindRoot click) =
        .error (.outsideSources "ws/ws/App/project/src/a.js" "ws/ws/project/src") := by
  decide +kernel

end Workspace

end CallAtlas
