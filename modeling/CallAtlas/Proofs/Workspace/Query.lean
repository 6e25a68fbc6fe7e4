import CallAtlas.Workspace
import Mathlib.Data.List.Basic

/-!
# Queries of clicks

The project of a query is the name of one directory, because it is a component of a path; so a
graph is never refused for the name of the project that a click leads to.
-/

namespace CallAtlas

namespace Path

theorem pieces_ne_nil (s : List Char) : pieces s ≠ [] := by
  fun_induction pieces s with
  | case1 => simp
  | case2 rest ih => simp
  | case3 c rest slash none ih => simp
  | case4 c rest slash piece more found ih => simp

theorem slash_notMem_of_mem_pieces {s piece : List Char} (member : piece ∈ pieces s) :
    '/' ∉ piece := by
  fun_induction pieces s generalizing piece with
  | case1 => simp_all
  | case2 rest ih =>
    rcases List.mem_cons.mp member with rfl | member
    · simp
    · exact ih member
  | case3 c rest slash none ih => exact absurd none (pieces_ne_nil rest)
  | case4 c rest slash first more found ih =>
    rw [found] at ih
    rcases List.mem_cons.mp member with rfl | member
    · have front := ih List.mem_cons_self
      simp only [List.mem_cons, not_or]
      exact ⟨fun same => slash same.symm, front⟩
    · exact ih (List.mem_cons_of_mem _ member)

theorem pieces_of_slash_notMem {s : List Char} (whole : '/' ∉ s) : pieces s = [s] := by
  fun_induction pieces s with
  | case1 => rfl
  | case2 rest ih => simp at whole
  | case3 c rest slash none ih => exact absurd none (pieces_ne_nil rest)
  | case4 c rest slash piece more found ih =>
    have inner := ih fun member => whole (List.mem_cons_of_mem _ member)
    rw [found] at inner
    obtain ⟨rfl, rfl⟩ := List.cons.inj inner
    rfl

/-- A name inside a path is a piece of it that is neither empty nor one dot nor two. -/
theorem name_mem_components {path : Path} {name : String}
    (member : .name name ∈ path.components) :
    '/' ∉ name.toList ∧ name.toList ≠ [] ∧ name.toList ≠ ['.'] ∧ name.toList ≠ ['.', '.'] := by
  have inside : Component.name name ∈ (pieces path.text.toList).filterMap componentOf? := by
    rcases List.mem_append.mp member with front | inside
    · unfold start at front
      split at front
      · simp at front
      · split at front <;> simp at front
    · exact inside
  obtain ⟨piece, present, found⟩ := List.mem_filterMap.mp inside
  have whole := slash_notMem_of_mem_pieces present
  unfold componentOf? at found
  split at found
  · cases found
  · cases found
  · cases found
  · rename_i notEmpty notDot notDots
    obtain rfl := Component.name.inj (Option.some.inj found)
    rw [String.toList_ofList]
    exact ⟨whole, notEmpty, notDot, notDots⟩

/-- A name of a file or directory, as it may stand inside a path. -/
structure IsName (name : String) : Prop where
  present : name ≠ ""
  notDot : name ≠ "."
  notDots : name ≠ ".."
  whole : '/' ∉ name.toList

theorem isName_of_mem_components {path : Path} {name : String}
    (member : .name name ∈ path.components) : IsName name := by
  obtain ⟨whole, present, notDot, notDots⟩ := name_mem_components member
  refine ⟨?_, ?_, ?_, whole⟩
  · rintro rfl
    exact present rfl
  · rintro rfl
    exact notDot rfl
  · rintro rfl
    exact notDots rfl

end Path

/-- A component of a path that has a name is the name of one directory. -/
theorem isProjectName_of_mem_components {path : Path} {name : String}
    (member : .name name ∈ path.components) : isProjectName name = true := by
  obtain ⟨whole, notEmpty, notDot, notDots⟩ := Path.name_mem_components member
  have single := Path.pieces_of_slash_notMem whole
  have relative : name.toList.head? ≠ some '/' := by
    intro slash
    exact whole (List.mem_of_head? slash)
  have front : Path.start name.toList = [] := by
    rw [Path.start, if_neg relative, single, List.head?_cons, if_neg]
    simpa using notDot
  have component : Path.componentOf? name.toList = some (.name name) := by
    unfold Path.componentOf?
    split
    · contradiction
    · contradiction
    · contradiction
    · rw [String.ofList_toList]
  unfold isProjectName Path.components
  rw [front, single, List.filterMap_cons_some component]
  simp

theorem checkProjectName_eq_ok_iff {name : String} :
    checkProjectName name = .ok () ↔ isProjectName name = true := by
  unfold checkProjectName
  split
  · rename_i named
    exact iff_of_true rfl named
  · rename_i refused
    exact iff_of_false nofun refused

namespace Workspace

variable {workspace : Workspace} {path : Path} {click : Click} {query : Query}

theorem mem_components_of_below? {rest : List Component} (below : workspace.below? path = some rest)
    {component : Component} (member : component ∈ rest) : component ∈ path.components := by
  unfold below? at below
  split at below
  · rename_i behind found
    obtain rfl := Option.some.inj below
    rw [← List.isPrefixOf?_eq_some_iff_append_eq.mp found]
    exact List.mem_append_right _ member
  · split at below
    · cases below
    · rwa [Option.some.inj below]

/-- The project of a file is the name of one directory. -/
theorem isProjectName_of_projectOf {project : String}
    (found : workspace.projectOf path = .ok project) : isProjectName project = true := by
  unfold projectOf at found
  split at found
  · rename_i name first
    obtain rfl := Except.ok.inj found
    obtain ⟨rest, below, first⟩ := Option.bind_eq_some_iff.mp first
    exact isProjectName_of_mem_components
      (mem_components_of_below? below (List.mem_of_find?_eq_some first))
  · cases found

/-- What an accepted click becomes. -/
theorem query_eq_ok (accepted : workspace.query click = .ok query) :
    workspace.projectOf ⟨click.path⟩ = .ok query.project ∧
      workspace.relativeSource query.project ⟨click.path⟩ = .ok query.relativePath ∧
      query.clickedLine = click.line ∧ query.identifier = Text.trim click.identifier := by
  unfold Workspace.query at accepted
  dsimp only at accepted
  split at accepted
  · cases accepted
  · simp only [bind, Except.bind, pure, Except.pure] at accepted
    split at accepted
    · cases accepted
    · split at accepted
      · cases accepted
      · rename_i project ofPath
        split at accepted
        · cases accepted
        · rename_i relative inside
          obtain rfl := Except.ok.inj accepted
          exact ⟨ofPath, inside, rfl, rfl⟩

end Workspace

end CallAtlas
