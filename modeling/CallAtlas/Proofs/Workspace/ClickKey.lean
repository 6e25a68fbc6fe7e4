import CallAtlas.Proofs.Navigator.Click
import CallAtlas.Proofs.Workspace.ClickBack

/-!
# Keys of clicks

What a click asks for stands for the components of its path: however a path is spelled, a click on
it asks for the same, and two files that differ in a component are never asked for in the same way.
A path inside a key is made of names and of nothing else.
-/

namespace CallAtlas

namespace Path

/-- Names are read back from what they are joined to. -/
theorem segments_intercalate {names : List String} (each : ∀ name ∈ names, IsName name) :
    segments ("/".intercalate names) = names := by
  by_cases none : names = []
  · subst none
    rfl
  · have apart : ∀ piece ∈ names.map String.toList, '/' ∉ piece := by
      intro piece member
      obtain ⟨name, present, rfl⟩ := List.mem_map.mp member
      exact (each name present).whole
    have kept : (names.map String.toList).filter (fun piece => piece ≠ [] ∧ piece ≠ ['.']) =
        names.map String.toList := by
      refine List.filter_eq_self.mpr fun piece member => ?_
      obtain ⟨name, present, rfl⟩ := List.mem_map.mp member
      have isName := each name present
      rw [decide_eq_true_eq]
      exact ⟨fun empty => isName.present (String.toList_inj.mp empty),
        fun dot => isName.notDot (String.toList_inj.mp dot)⟩
    have split : (['/'].intercalate (names.map String.toList)).splitOn '/' =
        names.map String.toList :=
      List.splitOn_intercalate '/' apart (by simpa using none)
    have slash : "/".toList = ['/'] := rfl
    rw [segments, String.toList_intercalate, slash, split, kept, List.map_map]
    exact (List.map_congr_left fun name _ => String.ofList_toList).trans (List.map_id names)

/-- Names that are joined make no absolute path. -/
theorem isAbsolute_intercalate {names : List String} (each : ∀ name ∈ names, IsName name) :
    (Path.mk ("/".intercalate names)).isAbsolute = false := by
  cases names with
  | nil => rfl
  | cons first rest =>
    have isName := each first List.mem_cons_self
    obtain ⟨c, others, spelled⟩ : ∃ c others, first.toList = c :: others :=
      List.exists_cons_of_ne_nil fun empty => isName.present (String.toList_inj.mp empty)
    have front : ("/".intercalate (first :: rest)).toList.head? = some c := by
      rw [String.toList_intercalate, List.map_cons, spelled]
      cases rest with
      | nil => simp
      | cons second more => simp
    have different : c ≠ '/' := by
      rintro rfl
      exact isName.whole (by simp [spelled])
    show (("/".intercalate (first :: rest)).toList.head? == some '/') = false
    rw [front]
    simpa using different

/-- An absolute path is one that starts at the root directory. -/
theorem isAbsolute_iff {path : Path} :
    path.isAbsolute = true ↔ path.components.head? = some .root := by
  unfold isAbsolute startsAtRoot components start
  rw [beq_iff_eq]
  split
  · rename_i slash
    exact iff_of_true slash rfl
  · rename_i noSlash
    refine iff_of_false noSlash ?_
    intro root
    have inside : Component.root ∈ (if (pieces path.text.toList).head? = some ['.'] then
        [Component.current] else []) ++ (pieces path.text.toList).filterMap componentOf? :=
      List.mem_of_head? root
    rcases List.mem_append.mp inside with front | behind
    · split at front <;> simp at front
    · obtain ⟨piece, -, found⟩ := List.mem_filterMap.mp behind
      rw [componentOf?_eq] at found
      split at found
      · unfold ofSegment at found
        split at found <;> cases found
      · cases found

/-- Inside an absolute path no component is the current directory. -/
theorem isCurrent_of_isAbsolute {path : Path} (absolute : path.isAbsolute = true) :
    ∀ component ∈ path.components, component.isCurrent = false := by
  have slash : path.text.toList.head? = some '/' := beq_iff_eq.mp absolute
  intro component member
  unfold components start at member
  rw [if_pos slash, filterMap_componentOf?] at member
  rcases List.mem_append.mp member with front | behind
  · rw [List.mem_singleton.mp front]
    rfl
  · obtain ⟨segment, -, rfl⟩ := List.mem_map.mp behind
    exact Workspace.isCurrent_ofSegment segment

end Path

namespace Workspace

variable {workspace : Workspace} {path other : Path} {project relative : String} {click : Click}
  {query : Query}

/-! ## Spellings -/

/-- Only the components of a path count below the root. -/
theorem below?_congr (same : path.components = other.components) :
    workspace.below? path = workspace.below? other := by
  have absolute : path.isAbsolute = other.isAbsolute := by
    rw [Bool.eq_iff_iff, Path.isAbsolute_iff, Path.isAbsolute_iff, same]
  rw [below?, below?, same, absolute]

/-- The components below the root that lead somewhere. -/
def stepsBelow? (workspace : Workspace) (path : Path) : Option (List Component) :=
  (workspace.below? path).map fun rest => rest.filter fun part => !part.isCurrent

theorem projectOf_eq_ok_iff :
    workspace.projectOf path = .ok project ↔
      (workspace.stepsBelow? path).bind List.head? = some (.name project) := by
  have first : (workspace.stepsBelow? path).bind List.head? =
      (workspace.below? path).bind fun rest => rest.find? fun part => !part.isCurrent := by
    rw [stepsBelow?, Option.bind_map]
    exact congrArg _ (funext fun rest => List.head?_filter)
  rw [first]
  unfold projectOf
  split
  · rename_i own found
    rw [found]
    simp
  · rename_i other
    simp only [reduceCtorEq, false_iff]
    exact other project

theorem namesBelow?_eq :
    workspace.namesBelow? path =
      (workspace.stepsBelow? path).bind fun steps => steps.mapM Component.name? := by
  rw [namesBelow?, stepsBelow?, Option.bind_map]
  rfl

theorem relativeSource_congr (same : workspace.stepsBelow? path = workspace.stepsBelow? other)
    (inside : workspace.relativeSource project path = .ok relative) :
    workspace.relativeSource project other = .ok relative := by
  have inner : workspace.insideSources? project other = workspace.insideSources? project path := by
    rw [insideSources?, insideSources?, namesBelow?_eq, namesBelow?_eq, same]
  unfold relativeSource at inside ⊢
  rw [inner]
  split at inside
  · exact inside
  · cases inside

/-- A click that became a query has a line and a visible identifier. -/
theorem visible_of_query (accepted : workspace.query click = .ok query) :
    click.line ≠ 0 ∧ Text.trim click.identifier ≠ "" := by
  unfold Workspace.query at accepted
  dsimp only at accepted
  split at accepted
  · cases accepted
  · rename_i visible
    simp only [bind, Except.bind, pure, Except.pure] at accepted
    split at accepted
    · cases accepted
    · rename_i counted
      exact ⟨counted, by simpa using visible⟩

/-- A click that leads the same way below the root asks for the same. -/
theorem query_of_steps (accepted : workspace.query click = .ok query) {spelling : String}
    (same : workspace.stepsBelow? ⟨spelling⟩ = workspace.stepsBelow? ⟨click.path⟩) :
    workspace.query { click with path := spelling } = .ok query := by
  obtain ⟨owner, inside, line, identifier⟩ := query_eq_ok accepted
  obtain ⟨counted, visible⟩ := visible_of_query accepted
  rw [projectOf_eq_ok_iff, ← same, ← projectOf_eq_ok_iff] at owner
  refine (query_of_inside owner (relativeSource_congr same.symm inside) counted visible).trans ?_
  rw [← line, ← identifier]

/-- A click on the same file, spelled in another way, asks for the same. -/
theorem query_congr (accepted : workspace.query click = .ok query) {spelling : String}
    (same : (Path.mk spelling).components = (Path.mk click.path).components) :
    workspace.query { click with path := spelling } = .ok query := by
  apply query_of_steps accepted
  rw [stepsBelow?, stepsBelow?, below?_congr same]

/-! ## What a key says -/

/-- Components that all have names are the components of these names. -/
theorem eq_map_of_mapM_name? {components : List Component} {names : List String}
    (named : components.mapM Component.name? = some names) :
    components = names.map Component.name := by
  induction components generalizing names with
  | nil =>
    obtain rfl : [] = names := Option.some.inj named
    rfl
  | cons component rest ih =>
    rw [List.mapM_cons] at named
    obtain ⟨name, own, named⟩ := Option.bind_eq_some_iff.mp named
    obtain ⟨others, further, same⟩ := Option.bind_eq_some_iff.mp named
    obtain rfl : name :: others = names := Option.some.inj same
    rw [List.map_cons, ← ih further]
    cases component with
    | name text => rw [Option.some.inj own]
    | root | current | parent => cases own

/-- A path below the sources is made of the names that follow the project and its sources. -/
theorem names_of_relativeSource (inside : workspace.relativeSource project path = .ok relative) :
    ∃ names rest, names ≠ [] ∧ relative = "/".intercalate names ∧
      workspace.below? path = some rest ∧
      rest.filter (fun part => !part.isCurrent) =
        (project :: sourceParts ++ names).map Component.name := by
  unfold relativeSource at inside
  split at inside
  · rename_i names found
    obtain rfl := Except.ok.inj inside
    obtain ⟨all, below, split⟩ := Option.bind_eq_some_iff.mp found
    obtain ⟨split, present⟩ := Option.filter_eq_some_iff.mp split
    obtain ⟨rest, led, named⟩ := Option.bind_eq_some_iff.mp below
    refine ⟨names, rest, by simpa using present, rfl, led, ?_⟩
    rw [List.isPrefixOf?_eq_some_iff_append_eq.mp split]
    exact eq_map_of_mapM_name? named
  · cases inside

/-- What a click asks for is made of names. -/
theorem names_of_query (accepted : workspace.query click = .ok query) :
    ∃ names, names ≠ [] ∧ query.relativePath = "/".intercalate names ∧
      (∀ name ∈ names, Path.IsName name) ∧
      workspace.stepsBelow? ⟨click.path⟩ =
        some ((query.project :: sourceParts ++ names).map Component.name) := by
  obtain ⟨names, rest, present, joined, led, kept⟩ :=
    names_of_relativeSource (query_eq_ok accepted).2.1
  refine ⟨names, present, joined, fun name member => ?_, by rw [stepsBelow?, led, ← kept]; rfl⟩
  have inside : Component.name name ∈ rest.filter fun part => !part.isCurrent := by
    rw [kept]
    exact List.mem_map_of_mem (List.mem_append_right _ member)
  exact Path.isName_of_mem_components
    (mem_components_of_below? led (List.mem_filter.mp inside).1)

/-- A click that becomes a query leads below the root to what it asks for. -/
theorem steps_of_query (accepted : workspace.query click = .ok query) :
    workspace.stepsBelow? ⟨click.path⟩ =
      some ((query.project :: sourceParts ++ Path.segments query.relativePath).map
        Component.name) := by
  obtain ⟨names, -, joined, each, steps⟩ := names_of_query accepted
  rw [steps, joined, Path.segments_intercalate each]

/-- A click on an absolute path asks for what leads to it from the root. -/
theorem components_of_query (accepted : workspace.query click = .ok query)
    (absolute : (Path.mk click.path).isAbsolute = true) :
    (Path.mk click.path).components = workspace.root.components ++
      (query.project :: sourceParts ++ Path.segments query.relativePath).map Component.name := by
  obtain ⟨rest, led, kept⟩ := Option.map_eq_some_iff.mp (steps_of_query accepted)
  have split : (Path.mk click.path).components = workspace.root.components ++ rest := by
    unfold below? at led
    split at led
    · rename_i behind found
      obtain rfl := Option.some.inj led
      exact (List.isPrefixOf?_eq_some_iff_append_eq.mp found).symm
    · rw [if_pos absolute] at led
      cases led
  have whole : rest.filter (fun part => !part.isCurrent) = rest := by
    refine List.filter_eq_self.mpr fun component member => ?_
    rw [Path.isCurrent_of_isAbsolute absolute component]
    · rfl
    · rw [split]
      exact List.mem_append_right _ member
  rw [split, ← whole, kept]

end Workspace

/-- A query in the one form that a click can give it. -/
structure Query.Canonical (query : Query) : Prop where
  /-- The project is the name of one directory. -/
  named : checkProjectName query.project = .ok ()
  /-- So its graph is never refused for the name. -/
  admitted : ∀ load cache, (Navigator.graphFor load cache query.project).result =
    (cache.getOrLoad query.project load).2.1
  counted : 1 ≤ query.clickedLine.toNat
  visible : query.identifier ≠ ""
  trimmed : ∀ blank, Text.isBlank blank = true →
    query.identifier.toList.head? ≠ some blank ∧ query.identifier.toList.getLast? ≠ some blank
  /-- The path is made of names with a slash between any two. -/
  joined : ∃ names, names ≠ [] ∧ query.relativePath = "/".intercalate names ∧
    ∀ name ∈ names, Path.IsName name
  relative : (Path.mk query.relativePath).isAbsolute = false

namespace Workspace

/-- What the clicks of a workspace ask for: one form for each file, and different forms for
different files. -/
structure KeysClicks (workspace : Workspace) : Prop where
  canonical : ∀ click query, workspace.query click = .ok query → query.Canonical
  /-- Clicks on absolute paths ask for the same exactly if the paths have the same components. -/
  faithful : ∀ click query other otherQuery, workspace.query click = .ok query →
    workspace.query other = .ok otherQuery → (Path.mk click.path).isAbsolute = true →
    (Path.mk other.path).isAbsolute = true →
      ((query.project = otherQuery.project ∧ query.relativePath = otherQuery.relativePath) ↔
        (Path.mk click.path).components = (Path.mk other.path).components)
  /-- A path that is spelled in another way is accepted as well. -/
  respelled : ∀ click query spelling, workspace.query click = .ok query →
    (Path.mk spelling).components = (Path.mk click.path).components →
      workspace.query { click with path := spelling } = .ok query

variable {workspace : Workspace} {click other : Click} {query otherQuery : Query}

theorem canonical_of_query (accepted : workspace.query click = .ok query) : query.Canonical := by
  obtain ⟨owner, inside, line, identifier⟩ := query_eq_ok accepted
  obtain ⟨counted, visible⟩ := visible_of_query accepted
  obtain ⟨names, present, joined, each, -⟩ := names_of_query accepted
  have named := isProjectName_of_projectOf owner
  refine ⟨if_pos named, fun load cache => (Navigator.graphFor_of_isProjectName named).2, ?_,
    identifier ▸ visible, ?_, ⟨names, present, joined, each⟩, ?_⟩
  · have nonzero : click.line.toNat ≠ 0 := fun zero => counted (UInt32.toNat_inj.mp zero)
    rw [line]
    exact Nat.one_le_iff_ne_zero.mpr nonzero
  · intro blank isBlank
    rw [identifier, Text.trim, String.toList_ofList]
    exact ⟨Text.head?_trimBlanks isBlank _, Text.getLast?_trimBlanks isBlank _⟩
  · rw [joined]
    exact Path.isAbsolute_intercalate each

theorem faithful_of_query (accepted : workspace.query click = .ok query)
    (acceptedOther : workspace.query other = .ok otherQuery)
    (absolute : (Path.mk click.path).isAbsolute = true)
    (absoluteOther : (Path.mk other.path).isAbsolute = true) :
    (query.project = otherQuery.project ∧ query.relativePath = otherQuery.relativePath) ↔
      (Path.mk click.path).components = (Path.mk other.path).components := by
  constructor
  · rintro ⟨project, relative⟩
    rw [components_of_query accepted absolute, components_of_query acceptedOther absoluteOther,
      project, relative]
  · intro same
    have asked := query_eq_ok acceptedOther
    obtain ⟨owner, inside, -, -⟩ := query_eq_ok (query_congr accepted same.symm)
    have project : query.project = otherQuery.project :=
      Except.ok.inj (owner.symm.trans asked.1)
    rw [project] at inside
    exact ⟨project, Except.ok.inj (inside.symm.trans asked.2.1)⟩

/-- In every workspace what a click asks for stands for the components of its path. -/
theorem keysClicks (workspace : Workspace) : workspace.KeysClicks where
  canonical := fun _ _ accepted => canonical_of_query accepted
  faithful := fun _ _ _ _ accepted acceptedOther absolute absoluteOther =>
    faithful_of_query accepted acceptedOther absolute absoluteOther
  respelled := fun _ _ _ accepted same => query_congr accepted same

/-- Slashes and dots too many make no other file. -/
theorem keysClicks_dotted_path :
    (Workspace.mk ⟨"/ws/."⟩).query ⟨"//ws/./App//project/src/./a.js/", 3, " f "⟩ =
      .ok ⟨"App", "a.js", 3, "f"⟩ :=
  (keysClicks ⟨⟨"/ws/."⟩⟩).respelled ⟨"/ws/App/project/src/a.js", 3, " f "⟩ _ _
    (by decide +kernel) (by decide +kernel)

end Workspace

end CallAtlas
