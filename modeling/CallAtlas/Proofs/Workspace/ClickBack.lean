import CallAtlas.Navigator
import CallAtlas.Proofs.Path.Push
import Mathlib.Data.List.Forall2

/-!
# Definitions click back to themselves

The path that an editor opens for a path of a call graph lies below the sources of its project,
whatever the graph has written there, and a click on it is a click on the path of the graph with its
empty segments and single dots left out. Only a path that leads nowhere or upwards is refused.
-/

namespace CallAtlas

/-- A path below the sources of a project has a segment, and none that leads upwards. -/
structure Path.LeadsInside (relative : String) : Prop where
  present : segments relative ≠ []
  level : ".." ∉ segments relative

namespace Workspace

variable {workspace : Workspace} {project relative : String}

/-- The components below the root of a path that starts with the root. -/
theorem below?_eq {path : Path} {rest : List Component}
    (split : path.components = workspace.root.components ++ rest) :
    workspace.below? path = some rest := by
  unfold below?
  rw [List.isPrefixOf?_eq_some_iff_append_eq.mpr split.symm]

theorem name_mem_components_of_isProjectName (named : isProjectName project = true) :
    Component.name project ∈ (Path.mk project).components := by
  have only : (Path.mk project).components = [.name project] := beq_iff_eq.mp named
  rw [only]
  exact List.mem_singleton_self _

theorem isPart_of_isProjectName (named : isProjectName project = true) : Path.IsPart project := by
  obtain ⟨whole, present, -, -⟩ :=
    Path.name_mem_components (name_mem_components_of_isProjectName named)
  exact ⟨whole, present⟩

theorem componentOf?_of_isProjectName (named : isProjectName project = true) :
    Path.componentOf? project.toList = some (.name project) := by
  obtain ⟨-, present, notDot, notDots⟩ :=
    Path.name_mem_components (name_mem_components_of_isProjectName named)
  have different : project ≠ ".." := fun same => notDots (congrArg String.toList same)
  rw [Path.componentOf?_eq, if_pos ⟨present, notDot⟩, String.ofList_toList, Path.ofSegment,
    if_neg different]

/-- The directory of a project is one name below the root, also if the root is the empty path. -/
theorem components_push_project (workspace : Workspace) (named : isProjectName project = true) :
    (workspace.root.push project).components = workspace.root.components ++ [.name project] := by
  have isPart := isPart_of_isProjectName named
  by_cases present : workspace.root.text.toList = []
  · rw [Path.push_of_empty isPart.startsAtRoot_eq_false present, Path.components_of_empty present]
    exact beq_iff_eq.mp named
  · rw [isPart.components_push present, componentOf?_of_isProjectName named]
    rfl

theorem isPart_of_mem_sourceParts {part : String} (member : part ∈ sourceParts) :
    Path.IsPart part := by
  unfold sourceParts at member
  rcases List.mem_cons.mp member with rfl | member
  · exact ⟨by decide, by decide⟩
  · obtain rfl := List.mem_singleton.mp member
    exact ⟨by decide, by decide⟩

theorem components_sourceRoot (workspace : Workspace) (named : isProjectName project = true) :
    (workspace.sourceRoot project).components =
      workspace.root.components ++ (project :: sourceParts).map .name := by
  have present := (isPart_of_isProjectName named).push_ne_nil workspace.root
  rw [sourceRoot, Path.components_pushAll (fun _ => isPart_of_mem_sourceParts) present,
    components_push_project workspace named, List.append_assoc]
  rfl

/-- Below the sources of a project a path leads where its segments lead. -/
theorem components_absoluteSource (workspace : Workspace) (named : isProjectName project = true)
    (relative : String) :
    (workspace.absoluteSource project relative).components =
      (workspace.sourceRoot project).components ++
        (Path.segments relative).map Path.ofSegment := by
  have present : (workspace.sourceRoot project).text.toList ≠ [] :=
    Path.pushAll_ne_nil (fun _ => isPart_of_mem_sourceParts)
      ((isPart_of_isProjectName named).push_ne_nil workspace.root)
  rw [absoluteSource, Path.components_pushAll (fun _ => Path.isPart_of_mem_parts) present,
    Path.filterMap_parts]

theorem below?_absoluteSource (workspace : Workspace) (named : isProjectName project = true)
    (relative : String) :
    workspace.below? (workspace.absoluteSource project relative) =
      some ((project :: sourceParts).map .name ++
        (Path.segments relative).map Path.ofSegment) := by
  apply below?_eq
  rw [components_absoluteSource workspace named, components_sourceRoot workspace named,
    List.append_assoc]

theorem projectOf_absoluteSource (workspace : Workspace) (named : isProjectName project = true)
    (relative : String) :
    workspace.projectOf (workspace.absoluteSource project relative) = .ok project := by
  unfold projectOf
  rw [below?_absoluteSource workspace named]
  rfl

/-- Components are names unless a segment among them leads upwards. -/
theorem mapM_name?_ofSegment (segments : List String) :
    (segments.map Path.ofSegment).mapM Component.name? =
      if ".." ∈ segments then none else some segments := by
  induction segments with
  | nil => rfl
  | cons segment rest ih =>
    by_cases upwards : segment = ".."
    · subst upwards
      rw [if_pos List.mem_cons_self]
      rfl
    · have name : (Path.ofSegment segment).name? = some segment := by
        rw [Path.ofSegment, if_neg upwards]
        rfl
      have same : ".." ∈ segment :: rest ↔ ".." ∈ rest := by
        simp [List.mem_cons, Ne.symm upwards]
      rw [List.map_cons, List.mapM_cons, name, ih]
      by_cases later : ".." ∈ rest
      · rw [if_pos later, if_pos (same.mpr later)]
        rfl
      · rw [if_neg later, if_neg (mt same.mp later)]
        rfl

theorem isCurrent_ofSegment (segment : String) : (Path.ofSegment segment).isCurrent = false := by
  unfold Path.ofSegment
  split <;> rfl

theorem namesBelow?_absoluteSource (workspace : Workspace) (named : isProjectName project = true)
    (relative : String) :
    workspace.namesBelow? (workspace.absoluteSource project relative) =
      if ".." ∈ Path.segments relative then none
      else some (project :: sourceParts ++ Path.segments relative) := by
  have kept : (((project :: sourceParts).map Component.name ++
      (Path.segments relative).map Path.ofSegment).filter fun part => !part.isCurrent) =
      (project :: sourceParts).map .name ++ (Path.segments relative).map Path.ofSegment := by
    refine List.filter_eq_self.mpr fun component member => ?_
    rcases List.mem_append.mp member with member | member
    · obtain ⟨name, -, rfl⟩ := List.mem_map.mp member
      rfl
    · obtain ⟨segment, -, rfl⟩ := List.mem_map.mp member
      rw [isCurrent_ofSegment]
      rfl
  rw [namesBelow?, below?_absoluteSource workspace named, Option.bind_some, kept,
    List.mapM_append, mapM_name?_ofSegment]
  split <;> rfl

theorem insideSources?_absoluteSource (workspace : Workspace)
    (named : isProjectName project = true) (inside : Path.LeadsInside relative) :
    workspace.insideSources? project (workspace.absoluteSource project relative) =
      some (Path.segments relative) := by
  rw [insideSources?, namesBelow?_absoluteSource workspace named, if_neg inside.level,
    Option.bind_some, List.isPrefixOf?_eq_some_iff_append_eq.mpr rfl, Option.filter_some, if_pos]
  simpa using inside.present

theorem insideSources?_eq_none (workspace : Workspace) (named : isProjectName project = true)
    (outside : ¬ Path.LeadsInside relative) :
    workspace.insideSources? project (workspace.absoluteSource project relative) = none := by
  rw [insideSources?, namesBelow?_absoluteSource workspace named]
  by_cases level : ".." ∈ Path.segments relative
  · rw [if_pos level]
    rfl
  · have nothing : Path.segments relative = [] := by
      by_contra present
      exact outside ⟨present, level⟩
    rw [if_neg level, Option.bind_some, List.isPrefixOf?_eq_some_iff_append_eq.mpr rfl, nothing]
    rfl

theorem relativeSource_absoluteSource (workspace : Workspace)
    (named : isProjectName project = true) (inside : Path.LeadsInside relative) :
    workspace.relativeSource project (workspace.absoluteSource project relative) =
      .ok ("/".intercalate (Path.segments relative)) := by
  rw [relativeSource, insideSources?_absoluteSource workspace named inside]

/-- A click on a file below the sources of its project becomes a query. -/
theorem query_of_inside {path : Path} (owner : workspace.projectOf path = .ok project)
    (inside : workspace.relativeSource project path = .ok relative) {line : UInt32}
    (counted : line ≠ 0) {identifier : String} (visible : Text.trim identifier ≠ "") :
    workspace.query ⟨path.text, line, identifier⟩ =
      .ok ⟨project, relative, line, Text.trim identifier⟩ := by
  have present : ¬ (Text.trim identifier).isEmpty = true := by simpa using visible
  unfold query
  simp only [if_neg present, if_neg counted, owner, inside, bind, Except.bind, pure, Except.pure]

end Workspace

namespace Navigator

variable (navigator : Navigator)

/-- What is answered to a click is the answer that a graph gives to its query. -/
theorem answer_of_result {load : Loader} {cache : Cache} {click : Click} {answer : Answer}
    (answered : (navigator.resolveClick load cache click).result = .ok answer) :
    ∃ query graph, navigator.workspace.query click = .ok query ∧
      answer = navigator.answer query graph := by
  unfold resolveClick at answered
  split at answered
  · cases answered
  · rename_i query became
    have mapped : (graphFor load cache query.project).result.map (navigator.answer query) =
        .ok answer := answered
    cases found : (graphFor load cache query.project).result with
    | error failure =>
      rw [found] at mapped
      cases mapped
    | ok graph =>
      rw [found] at mapped
      exact ⟨query, graph, became, (Except.ok.inj mapped).symm⟩

/-- Paths of call graphs come back from clicks on what an editor opens for them. -/
structure ClicksBack : Prop where
  /-- Whatever a path is, also if it is absolute, it stays below the sources. -/
  below : ∀ project relative, checkProjectName project = .ok () →
    (navigator.workspace.sourceRoot project).components <+:
      (navigator.workspace.absoluteSource project relative).components
  /-- A path that leads to a file belongs to its project and is what its segments are. -/
  inside : ∀ project relative, checkProjectName project = .ok () → Path.LeadsInside relative →
    navigator.workspace.projectOf (navigator.workspace.absoluteSource project relative) =
        .ok project ∧
      navigator.workspace.relativeSource project
          (navigator.workspace.absoluteSource project relative) =
        .ok ("/".intercalate (Path.segments relative))
  /-- Any other path is not below the sources. -/
  outside : ∀ project relative, checkProjectName project = .ok () → ¬ Path.LeadsInside relative →
    navigator.workspace.relativeSource project
        (navigator.workspace.absoluteSource project relative) =
      .error (.outsideSources (navigator.workspace.absoluteSource project relative).text
        (navigator.workspace.sourceRoot project).text)
  /-- A click on the place to go to for a definition asks for the path of the definition. -/
  targets : ∀ load cache click answer, (navigator.resolveClick load cache click).result =
      .ok answer →
    ∀ name locations, answer.outcome.resolution = .definition name locations →
      List.Forall₂ (fun location target => Path.LeadsInside location.path →
        ∀ line identifier, line ≠ 0 → Text.trim identifier ≠ "" →
          navigator.workspace.query ⟨target.path.text, line, identifier⟩ =
            .ok ⟨answer.query.project, "/".intercalate (Path.segments location.path), line,
              Text.trim identifier⟩)
        locations answer.targets

/-- In every workspace, however its root is written, definitions click back to themselves. -/
theorem clicksBack : navigator.ClicksBack where
  below := by
    intro project relative accepted
    rw [Workspace.components_absoluteSource _ (checkProjectName_eq_ok_iff.mp accepted)]
    exact List.prefix_append _ _
  inside := by
    intro project relative accepted inside
    have named := checkProjectName_eq_ok_iff.mp accepted
    exact ⟨Workspace.projectOf_absoluteSource _ named relative,
      Workspace.relativeSource_absoluteSource _ named inside⟩
  outside := by
    intro project relative accepted outside
    rw [Workspace.relativeSource, Workspace.insideSources?_eq_none _
      (checkProjectName_eq_ok_iff.mp accepted) outside]
  targets := by
    intro load cache click answer answered name locations resolved
    obtain ⟨query, graph, became, rfl⟩ := navigator.answer_of_result answered
    have named := Workspace.isProjectName_of_projectOf (Workspace.query_eq_ok became).1
    have targets : (navigator.answer query graph).targets =
        locations.map fun location => .ofRow
          (navigator.workspace.absoluteSource query.project location.path) location.line := by
      show (navigator.answer query graph).outcome.resolution.targets _ _ = _
      rw [resolved]
      rfl
    rw [targets, List.forall₂_map_right_iff, List.forall₂_same]
    intro location _ inside line identifier counted visible
    exact Workspace.query_of_inside (Workspace.projectOf_absoluteSource _ named location.path)
      (Workspace.relativeSource_absoluteSource _ named inside) counted visible

/-- A path of a graph with dots and slashes too many, below a root that is written in the same
way. -/
theorem clicksBack_dotted_path :
    let workspace : Workspace := ⟨⟨"./ws/./"⟩⟩
    workspace.projectOf (workspace.absoluteSource "App" "/lib/.//b.js") = .ok "App" ∧
      workspace.relativeSource "App" (workspace.absoluteSource "App" "/lib/.//b.js") =
        .ok "lib/b.js" :=
  (clicksBack { workspace := ⟨⟨"./ws/./"⟩⟩ }).inside "App" "/lib/.//b.js" rfl
    ⟨by decide, by decide⟩

end Navigator

end CallAtlas
