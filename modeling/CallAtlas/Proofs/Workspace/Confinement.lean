import CallAtlas.Proofs.Cache.Residence
import CallAtlas.Proofs.Server.Shift
import CallAtlas.Proofs.Workspace.ClickBack

/-!
# Reads of artifacts are confined

Whoever asks for a graph names a project, and a name that is no single directory name never reaches
the loader. The artifact of a project lies in the reports of its own directory below the root: a
name cannot lead anywhere else, not even by a character whose lowercase form is another one, and no
two names lead to one artifact. So of all files only these artifacts can show in an answer.
-/

namespace CallAtlas

/-! ## Lowercase adds no slash -/

namespace Text

/-- All lowercase letters lie behind the slash. -/
theorem slash_lt_lower : ∀ run ∈ caseRuns, '/'.toNat < run.lower := by
  decide +kernel

theorem ofNat_ne_slash {n : Nat} (behind : '/'.toNat < n) : Char.ofNat n ≠ '/' := by
  intro same
  by_cases valid : n.isValidChar
  · have code : (Char.ofNat n).toNat = n := by
      rw [Char.ofNat, dif_pos valid]
      rfl
    rw [same] at code
    omega
  · rw [Char.ofNat, dif_neg valid] at same
    exact absurd same (by decide)

/-- No character but the slash has a slash for its lowercase form. -/
theorem lowerChar_ne_slash {c : Char} (noSlash : c ≠ '/') : lowerChar c ≠ '/' := by
  unfold lowerChar
  cases found : caseRuns.findSome? fun run => run.lower? c with
  | none => exact noSlash
  | some image =>
    obtain ⟨run, member, mapped⟩ := List.exists_of_findSome?_eq_some found
    unfold CaseRun.lower? at mapped
    split at mapped
    · rw [Option.getD_some, ← Option.some.inj mapped]
      exact ofNat_ne_slash (Nat.lt_of_lt_of_le (slash_lt_lower run member) (Nat.le_add_right _ _))
    · cases mapped

theorem slash_notMem_lowerAfter {s : List Char} (whole : '/' ∉ s) (before : List Char) :
    '/' ∉ lowerAfter before s := by
  induction s generalizing before with
  | nil => exact List.not_mem_nil
  | cons c rest ih =>
    obtain ⟨different, further⟩ := not_or.mp (mt List.mem_cons.mpr whole)
    rw [lowerAfter, List.mem_append, not_or]
    refine ⟨?_, ih further (c :: before)⟩
    split
    · unfold sigmaBetween
      split <;> decide
    · split
      · decide
      · exact fun same => lowerChar_ne_slash (Ne.symm different) (List.mem_singleton.mp same).symm

theorem slash_notMem_lowercase {s : String} (whole : '/' ∉ s.toList) :
    '/' ∉ (lowercase s).toList := by
  rw [lowercase, String.toList_ofList]
  exact slash_notMem_lowerAfter whole []

end Text

/-! ## Where artifacts lie -/

/-- A name is accepted if it is that of one directory. -/
theorem isProjectName_iff {name : String} :
    isProjectName name = true ↔ name ≠ "" ∧ name ≠ "." ∧ name ≠ ".." ∧ '/' ∉ name.toList := by
  constructor
  · intro named
    obtain ⟨present, notDot, notDots, whole⟩ :=
      Path.isName_of_mem_components (Workspace.name_mem_components_of_isProjectName named)
    exact ⟨present, notDot, notDots, whole⟩
  · rintro ⟨present, notDot, notDots, whole⟩
    have piece : name.toList ≠ [] ∧ name.toList ≠ ['.'] :=
      ⟨fun empty => present (String.toList_inj.mp empty),
        fun dot => notDot (String.toList_inj.mp dot)⟩
    have component : Path.componentOf? name.toList = some (.name name) := by
      rw [Path.componentOf?_eq, if_pos piece, String.ofList_toList, Path.ofSegment, if_neg notDots]
    have member : .name name ∈ (Path.mk name).components := by
      apply List.mem_append_right
      rw [Path.pieces_of_slash_notMem whole, List.filterMap_cons_some component]
      exact List.mem_cons_self
    exact isProjectName_of_mem_components member

theorem isProjectName_iff_isName {name : String} :
    isProjectName name = true ↔ Path.IsName name := by
  rw [isProjectName_iff]
  constructor
  · rintro ⟨present, notDot, notDots, whole⟩
    exact ⟨present, notDot, notDots, whole⟩
  · rintro ⟨present, notDot, notDots, whole⟩
    exact ⟨present, notDot, notDots, whole⟩

namespace Workspace

variable {name other : String}

theorem toList_artifactName (name : String) :
    (artifactName name).toList = (Text.lowercase name).toList ++ "_callgraph.json".toList :=
  String.toList_append

/-- The file name of an artifact is one part of a path. -/
theorem isPart_artifactName (whole : '/' ∉ name.toList) : Path.IsPart (artifactName name) where
  whole := by
    rw [toList_artifactName, List.mem_append, not_or]
    exact ⟨Text.slash_notMem_lowercase whole, by decide⟩
  present := by
    rw [toList_artifactName]
    exact List.append_ne_nil_of_right_ne_nil _ (by decide)

theorem componentOf?_artifactName (name : String) :
    Path.componentOf? (artifactName name).toList = some (.name (artifactName name)) := by
  have long : 2 < (artifactName name).toList.length := by
    rw [toList_artifactName, List.length_append]
    exact Nat.lt_of_lt_of_le (by decide) (Nat.le_add_left _ _)
  have piece : (artifactName name).toList ≠ [] ∧ (artifactName name).toList ≠ ['.'] := by
    constructor
    · intro same
      rw [same] at long
      exact absurd long (by decide)
    · intro same
      rw [same] at long
      exact absurd long (by decide)
  have upwards : artifactName name ≠ ".." := by
    intro same
    rw [same] at long
    exact absurd long (by decide)
  rw [Path.componentOf?_eq, if_pos piece, String.ofList_toList, Path.ofSegment, if_neg upwards]

/-- The artifact of a project lies in the reports of its directory below the root. -/
theorem components_artifactPath (workspace : Workspace) (named : isProjectName name = true) :
    (workspace.artifactPath name).components =
      workspace.root.components ++ [.name name, .name "reports", .name (artifactName name)] := by
  have reports : Path.IsPart "reports" := ⟨by decide, by decide⟩
  have folder := (isPart_of_isProjectName named).push_ne_nil workspace.root
  have artifact := isPart_artifactName (isPart_of_isProjectName named).whole
  rw [artifactPath, artifact.components_push (reports.push_ne_nil _),
    reports.components_push folder, components_push_project workspace named,
    componentOf?_artifactName, List.append_assoc, List.append_assoc]
  rfl

/-- No two projects have one artifact. -/
theorem eq_of_artifactPath (workspace : Workspace) (named : isProjectName name = true)
    (namedOther : isProjectName other = true)
    (same : (workspace.artifactPath name).components =
      (workspace.artifactPath other).components) : name = other := by
  rw [components_artifactPath workspace named, components_artifactPath workspace namedOther] at same
  have behind := List.append_cancel_left same
  exact Component.name.inj (List.cons.inj behind).1

end Workspace

/-! ## What loaders are asked for -/

namespace Course

variable {α : Type} {course : Course α}

/-- The loader is asked for nothing but the project of the course. -/
theorem project?_of_mem_fetched {load : Loader} {cache : Cache} {project : String}
    (member : project ∈ (course.visit load cache).fetched) : course.project? = some project := by
  cases course with
  | ready result => cases member
  | needs own result =>
    unfold visit at member
    dsimp only at member
    split at member
    · rw [List.mem_singleton.mp member]
      rfl
    · cases member

theorem visit_congr {load other : Loader}
    (same : ∀ project, course.project? = some project → load project = other project)
    (cache : Cache) : course.visit load cache = course.visit other cache := by
  cases course with
  | ready result => rfl
  | needs project result =>
    simp only [visit]
    rw [cache.getOrLoad_congr (same project rfl)]

end Course

section Asking

variable {navigator : Navigator} {project : String}

/-- The project of an errand has the name of one directory. -/
theorem Errand.isProjectName_of_project? {errand : Errand}
    (needs : errand.project? navigator = some project) : isProjectName project = true := by
  cases errand with
  | resolve click =>
    simp only [Errand.project?] at needs
    cases became : navigator.workspace.query click with
    | error failure =>
      rw [became] at needs
      cases needs
    | ok query =>
      rw [became] at needs
      obtain rfl := Option.some.inj needs
      exact Workspace.isProjectName_of_projectOf (Workspace.query_eq_ok became).1
  | info name =>
    simp only [Errand.project?] at needs
    split at needs
    · rename_i named
      rwa [← Option.some.inj needs]
    · cases needs
  | openCaller click | ping => cases needs

theorem Message.isProjectName_of_project? {message : Message}
    (needs : message.project? navigator = some project) : isProjectName project = true := by
  cases message with
  | blank | unreadable | notification => cases needs
  | request id method params =>
    obtain ⟨errand, -, needs⟩ := Option.bind_eq_some_iff.mp needs
    exact Errand.isProjectName_of_project? needs

/-- Two loaders that give the same under the names of directories. -/
def AgreeOnProjects (load other : Loader) : Prop :=
  ∀ project, isProjectName project = true → load project = other project

namespace Navigator

variable {load other : Loader} {cache : Cache}

theorem isProjectName_of_mem_graphFor {name : String}
    (member : project ∈ (graphFor load cache name).fetched) : isProjectName project = true := by
  unfold graphFor checkProjectName at member
  split at member
  · cases member
  · rename_i accepted
    split at accepted
    · rename_i named
      dsimp only at member
      split at member
      · rwa [List.mem_singleton.mp member]
      · cases member
    · cases accepted

theorem isProjectName_of_mem_resolveClick {click : Click}
    (member : project ∈ (navigator.resolveClick load cache click).fetched) :
    isProjectName project = true := by
  unfold resolveClick at member
  split at member
  · cases member
  · exact isProjectName_of_mem_graphFor member

theorem isProjectName_of_mem_answerAll {messages : List Message}
    (member : project ∈ (navigator.answerAll load cache messages).fetched) :
    isProjectName project = true := by
  induction messages generalizing cache with
  | nil => cases member
  | cons message rest ih =>
    rcases List.mem_append.mp member with first | further
    · rw [Message.answerMessage_eq_visit] at first
      have needs := Course.project?_of_mem_fetched first
      rw [Message.project?_course] at needs
      exact Message.isProjectName_of_project? needs
    · exact ih further

theorem graphFor_congr (agree : AgreeOnProjects load other) (cache : Cache) (name : String) :
    graphFor load cache name = graphFor other cache name := by
  by_cases named : isProjectName name = true
  · rw [graphFor, graphFor, cache.getOrLoad_congr (agree name named)]
  · rw [graphFor, graphFor, checkProjectName, if_neg named]

theorem resolveClick_congr (agree : AgreeOnProjects load other) (cache : Cache) (click : Click) :
    navigator.resolveClick load cache click = navigator.resolveClick other cache click := by
  unfold resolveClick
  split
  · rfl
  · rw [graphFor_congr agree]

theorem answerAll_congr (agree : AgreeOnProjects load other) (messages : List Message)
    (cache : Cache) :
    navigator.answerAll load cache messages = navigator.answerAll other cache messages := by
  induction messages generalizing cache with
  | nil => rfl
  | cons message rest ih =>
    have first : navigator.answerMessage load cache message =
        navigator.answerMessage other cache message := by
      rw [Message.answerMessage_eq_visit, Message.answerMessage_eq_visit]
      refine Course.visit_congr (fun project needs => agree project ?_) cache
      rw [Message.project?_course] at needs
      exact Message.isProjectName_of_project? needs
    rw [answerAll, answerAll, first, ih]

theorem serve_congr (agree : AgreeOnProjects load other) (cache : Cache) (bytes : List UInt8) :
    navigator.serve load cache bytes = navigator.serve other cache bytes := by
  rw [serve, serve, answerAll_congr agree]

theorem isProjectName_of_mem_serve {bytes : List UInt8}
    (member : project ∈ (navigator.serve load cache bytes).fetched) :
    isProjectName project = true :=
  isProjectName_of_mem_answerAll member

end Navigator

/-- A turn of a task leaves the cache alone, or has it work for a project with the name of one
directory. -/
theorem Task.Turn.isProjectName {supply : Supply} {cache after : Cache} {task : Task}
    {handling : Handling} (turn : task.Turn navigator supply cache after handling) :
    after = cache ∨ ∃ project name step, CallAtlas.isProjectName project = true ∧
      task.handling.Takes supply cache project name step ∧
        after = (cache.act .dropIdle step).1 := by
  cases turn with
  | settles response? due course => exact .inl rfl
  | asks project result course name step takes =>
    have needs : (task.course navigator).project? = some project := by
      rw [course]
      rfl
    rw [Task.course, Message.project?_course] at needs
    exact .inr ⟨project, name, step, Message.isProjectName_of_project? needs, takes, rfl⟩

/-- Where the files agree that are the artifacts of projects, the loaders of a workspace agree. -/
theorem agreeOnProjects_ofFiles {workspace : Workspace} {read other : FileReader}
    (same : ∀ name, CallAtlas.isProjectName name = true →
      read (workspace.artifactPath name) = other (workspace.artifactPath name)) :
    AgreeOnProjects (.ofFiles workspace read) (.ofFiles workspace other) := by
  intro project named
  unfold Loader.ofFiles
  dsimp only
  rw [same project named]

end Asking

namespace Navigator

/-- Of all files only the artifacts of projects are read. -/
structure ConfinesReads (navigator : Navigator) : Prop where
  /-- A project has the name of one directory. -/
  accepts : ∀ name, checkProjectName name = .ok () ↔
    name ≠ "" ∧ name ≠ "." ∧ name ≠ ".." ∧ '/' ∉ name.toList
  /-- Its artifact is three names below the root. -/
  leads : ∀ name, checkProjectName name = .ok () →
    (navigator.workspace.artifactPath name).components =
      navigator.workspace.root.components ++
        [.name name, .name "reports", .name (Text.lowercase name ++ "_callgraph.json")]
  /-- It is the artifact of no other project. -/
  apart : ∀ name other, checkProjectName name = .ok () → checkProjectName other = .ok () →
    (navigator.workspace.artifactPath name).components =
      (navigator.workspace.artifactPath other).components → name = other
  /-- Whatever is clicked or asked for, the loader is asked for artifacts of projects only. -/
  clicks : ∀ load cache click, ∀ project ∈ (navigator.resolveClick load cache click).fetched,
    checkProjectName project = .ok ()
  graphs : ∀ load cache name, ∀ project ∈ (graphFor load cache name).fetched,
    checkProjectName project = .ok ()
  streams : ∀ load cache bytes, ∀ project ∈ (navigator.serve load cache bytes).fetched,
    checkProjectName project = .ok ()
  /-- The same holds of each turn of a task, in whatever order lines are worked on. -/
  turns : ∀ supply cache (task : Task) after handling,
    task.Turn navigator supply cache after handling →
      after = cache ∨ ∃ project name step, checkProjectName project = .ok () ∧
        task.handling.Takes supply cache project name step ∧
          after = (cache.act .dropIdle step).1
  /-- No other file shows in anything that is answered. -/
  hides : ∀ read other : FileReader, (∀ name, checkProjectName name = .ok () →
      read (navigator.workspace.artifactPath name) =
        other (navigator.workspace.artifactPath name)) →
    ∀ cache,
      (∀ click, navigator.resolveClick (.ofFiles navigator.workspace read) cache click =
        navigator.resolveClick (.ofFiles navigator.workspace other) cache click) ∧
      (∀ name, graphFor (.ofFiles navigator.workspace read) cache name =
        graphFor (.ofFiles navigator.workspace other) cache name) ∧
      ∀ bytes, navigator.serve (.ofFiles navigator.workspace read) cache bytes =
        navigator.serve (.ofFiles navigator.workspace other) cache bytes

/-- In every workspace reads are confined to the artifacts of projects. -/
theorem confinesReads (navigator : Navigator) : navigator.ConfinesReads where
  accepts := fun _ => checkProjectName_eq_ok_iff.trans isProjectName_iff
  leads := fun _ accepted =>
    Workspace.components_artifactPath _ (checkProjectName_eq_ok_iff.mp accepted)
  apart := by
    intro name other accepted acceptedOther same
    exact Workspace.eq_of_artifactPath _ (checkProjectName_eq_ok_iff.mp accepted)
      (checkProjectName_eq_ok_iff.mp acceptedOther) same
  clicks := fun _ _ _ _ member =>
    checkProjectName_eq_ok_iff.mpr (isProjectName_of_mem_resolveClick member)
  graphs := fun _ _ _ _ member =>
    checkProjectName_eq_ok_iff.mpr (isProjectName_of_mem_graphFor member)
  streams := fun _ _ _ _ member =>
    checkProjectName_eq_ok_iff.mpr (isProjectName_of_mem_serve member)
  turns := by
    intro supply cache task after handling turn
    rcases turn.isProjectName with idle | ⟨project, name, step, named, takes, acted⟩
    · exact .inl idle
    · exact .inr ⟨project, name, step, checkProjectName_eq_ok_iff.mpr named, takes, acted⟩
  hides := by
    intro read other same cache
    have agree : AgreeOnProjects (.ofFiles navigator.workspace read)
        (.ofFiles navigator.workspace other) :=
      agreeOnProjects_ofFiles fun name named => same name (checkProjectName_eq_ok_iff.mpr named)
    exact ⟨resolveClick_congr agree cache, graphFor_congr agree cache, serve_congr agree cache⟩

/-- A name of dots, and one that becomes longer in lowercase, below a root with dots. -/
theorem confinesReads_dotted_name :
    checkProjectName "...İ" = .ok () ∧
      ((Workspace.mk ⟨"./ws//."⟩).artifactPath "...İ").components =
        (Path.mk "./ws//.").components ++
          [.name "...İ", .name "reports", .name (Text.lowercase "...İ" ++ "_callgraph.json")] :=
  ⟨rfl, (confinesReads { workspace := ⟨⟨"./ws//."⟩⟩ }).leads "...İ" rfl⟩

end Navigator

end CallAtlas
