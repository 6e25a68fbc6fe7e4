import CallAtlas.Proofs.Session.Tidy

/-!
# What a question leaves behind

While nothing is unfinished, a question that fails leaves all resident graphs as they were. If it is
refused it costs nothing, and if a load fails it costs one call of the loader. A question that is
answered adds at most the graph that it needs.
-/

namespace CallAtlas

/-! ## Refused, or in need of a graph -/

/-- Whether a failure refuses a click or a name: nothing is looked up for it. -/
def Failure.isRefusal : Failure → Bool
  | .refused .blankIdentifier | .refused .lineZero | .refused (.projectName _) => true
  | .outsideSources _ _ | .unknownProject _ => true
  | _ => false

namespace Workspace

theorem isRefusal_of_projectOf {workspace : Workspace} {path : Path} {failure : Failure}
    (refused : workspace.projectOf path = .error failure) : failure.isRefusal = true := by
  unfold projectOf at refused
  split at refused
  · cases refused
  · obtain rfl := Except.error.inj refused
    rfl

theorem isRefusal_of_relativeSource {workspace : Workspace} {project : String} {path : Path}
    {failure : Failure} (refused : workspace.relativeSource project path = .error failure) :
    failure.isRefusal = true := by
  unfold relativeSource at refused
  split at refused
  · cases refused
  · obtain rfl := Except.error.inj refused
    rfl

/-- A click that becomes no query is refused. -/
theorem isRefusal_of_query {workspace : Workspace} {click : Click} {failure : Failure}
    (refused : workspace.query click = .error failure) : failure.isRefusal = true := by
  unfold Workspace.query at refused
  dsimp only at refused
  split at refused
  · obtain rfl := Except.error.inj refused
    rfl
  · simp only [bind, Except.bind, pure, Except.pure] at refused
    split at refused
    · obtain rfl := Except.error.inj refused
      rfl
    · split at refused
      · rename_i own outside
        obtain rfl := Except.error.inj refused
        exact isRefusal_of_projectOf outside
      · split at refused
        · rename_i own outside
          obtain rfl := Except.error.inj refused
          exact isRefusal_of_relativeSource outside
        · cases refused

end Workspace

theorem isRefusal_of_checkProjectName {project : String} {failure : Failure}
    (refused : checkProjectName project = .error failure) : failure.isRefusal = true := by
  unfold checkProjectName at refused
  split at refused
  · cases refused
  · obtain rfl := Except.error.inj refused
    rfl

theorem Loader.isRefusal_ofDocuments {documents : List (String × Json)} {project : String}
    {failure : Failure} (fails : Loader.ofDocuments documents project = .error failure) :
    failure.isRefusal = false := by
  unfold Loader.ofDocuments at fails
  split at fails
  · cases fails
  · obtain rfl := Except.error.inj fails
    rfl

theorem Loader.isRefusal_ofFiles {workspace : Workspace} {read : FileReader} {project : String}
    {failure : Failure} (fails : Loader.ofFiles workspace read project = .error failure) :
    failure.isRefusal = false := by
  unfold Loader.ofFiles artifactOfBytes at fails
  dsimp only at fails
  split at fails
  · split at fails
    · cases fails
    · obtain rfl := Except.error.inj fails
      rfl
  · obtain rfl := Except.error.inj fails
    rfl

/-- No load of an artifact, and no artifact, is refused in the way of a click. -/
theorem Participant.isRefusal_of_load {participant : Participant} {tree : FileTree}
    {project : String} {failure : Failure}
    (fails : (participant.loader tree project).bind CallGraph.ofArtifact = .error failure) :
    failure.isRefusal = false := by
  cases loaded : participant.loader tree project with
  | ok document =>
    rw [loaded] at fails
    obtain ⟨context, message, rfl⟩ := CallGraph.ofArtifact_malformed fails
    rfl
  | error own =>
    rw [loaded] at fails
    obtain rfl : own = failure := Except.error.inj fails
    cases source : participant.source with
    | memory documents =>
      have reads : participant.loader tree = .ofDocuments documents := by
        rw [Participant.loader, source]
      rw [reads] at loaded
      exact Loader.isRefusal_ofDocuments loaded
    | files =>
      have reads : participant.loader tree =
          .ofFiles participant.navigator.workspace tree.read := by
        rw [Participant.loader, source]
      rw [reads] at loaded
      exact Loader.isRefusal_ofFiles loaded

namespace Question

variable (navigator : Navigator)

/-- Why a question is refused before anything is loaded. -/
def refusal? : Question → Option Failure
  | .click event => (Errand.resolve event).refusal? navigator
  | .graphFor project => (Errand.info project).refusal? navigator
  | .fetch _ => none

/-- Whether a question is one for a graph or for an answer from it. -/
def isThroughCache : Question → Bool
  | .click .. | .graphFor .. => true
  | .fetch .. => false

variable {navigator} {question : Question}

theorem isRefusal_of_refusal? {failure : Failure}
    (refused : question.refusal? navigator = some failure) : failure.isRefusal = true := by
  cases question with
  | click event =>
    have became : navigator.workspace.query event = .error failure :=
      Failure.of?_eq_some_iff.mp refused
    exact Workspace.isRefusal_of_query became
  | graphFor name =>
    have checked : checkProjectName name = .error failure := Failure.of?_eq_some_iff.mp refused
    exact isRefusal_of_checkProjectName checked
  | fetch name => cases refused

/-- A question that is not refused needs a graph, and fails exactly if the graph cannot be had. -/
theorem needs_of_accepted (through : question.isThroughCache = true)
    (accepted : question.refusal? navigator = none) :
    ∃ project, question.project? navigator = some project ∧
      (∀ failure, question.outcome navigator (.error failure) = .failed failure) ∧
      ∀ graph failure, question.outcome navigator (.ok graph) ≠ .failed failure := by
  cases question with
  | click event =>
    have became : ∃ query, navigator.workspace.query event = .ok query :=
      Failure.of?_eq_none_iff.mp accepted
    obtain ⟨query, became⟩ := became
    simp only [project?, Errand.project?, outcome, became]
    refine ⟨query.project, rfl, fun _ => rfl, ?_⟩
    intro graph failure same
    cases same
  | graphFor name =>
    have checked : ∃ passed, checkProjectName name = .ok passed :=
      Failure.of?_eq_none_iff.mp accepted
    obtain ⟨⟨⟩, checked⟩ := checked
    refine ⟨name, if_pos (checkProjectName_eq_ok_iff.mp checked), fun _ => rfl, ?_⟩
    intro graph failure same
    cases same
  | fetch name => cases through

end Question

/-- A question that is refused is none of the cache's and of the loader's business. -/
theorem Participant.visit_of_refusal? (participant : Participant) (tree : FileTree)
    (cache : Cache) {question : Question} {failure : Failure}
    (refused : question.refusal? participant.navigator = some failure) :
    participant.visit tree cache question = .idle cache (.failed failure) := by
  cases question with
  | click event =>
    have became : participant.navigator.workspace.query event = .error failure :=
      Failure.of?_eq_some_iff.mp refused
    simp only [visit, Navigator.resolveClick, became]
    rfl
  | graphFor name =>
    have checked : checkProjectName name = .error failure := Failure.of?_eq_some_iff.mp refused
    simp only [visit, Navigator.graphFor, checked]
    rfl
  | fetch name => cases refused

section Loads

variable (participant : Participant) (tree : FileTree) {question : Question} {project : String}
  (needed : question.project? participant.navigator = some project) {cache : Cache}

include needed

/-- A question whose graph is resident is answered at once. -/
theorem Participant.visit_of_resident {loaded : Loaded}
    (resident : cache.resident? project = some loaded) :
    participant.visit tree cache question =
      .idle cache (question.outcome participant.navigator (.ok loaded.graph)) := by
  rw [participant.visit_of_project tree needed, Cache.getOrLoad_of_resident resident]
  rfl

/-- A question whose graph is not resident asks the loader for it once. -/
theorem Participant.visit_of_missing (atRest : cache.AtRest)
    (missing : cache.resident? project = none) :
    let load := participant.loader tree
    participant.visit tree cache question =
      ⟨(cache.getOrLoad project load).1, [project],
        question.outcome participant.navigator ((load project).bind CallGraph.ofArtifact)⟩ := by
  intro load
  have returns := atRest.sound.returns_getOrLoad missing load
  rw [participant.visit_of_project tree needed]
  generalize cache.getOrLoad project (participant.loader tree) = gives at returns ⊢
  obtain ⟨after, graph, asked⟩ := gives
  obtain ⟨rfl, rfl⟩ := Prod.mk.inj returns
  rfl

end Loads

namespace Session

/-! ## What shows of a session -/

/-- The graph of a project in the cache with a number. -/
def loaded? (session : Session) (index : Nat) (project : String) : Option Loaded :=
  session.caches[index]?.bind fun cache => cache.resident? project

/-- The projects whose graph is in the cache with a number. -/
def residents (session : Session) (index : Nat) : List String :=
  (session.caches[index]?.map Cache.residentProjects).getD []

/-- Every cache holds the same graphs, of the same projects. -/
structure SameGraphs (before after : Session) : Prop where
  loaded : ∀ index project, after.loaded? index project = before.loaded? index project
  residents : ∀ index, after.residents index = before.residents index

/-- The loader of the navigator with a number was asked for some projects, and nothing else has
happened outside of the caches. -/
structure Costs (before after : Session) (number : Nat) (projects : List String) : Prop where
  asked : after.participants[number]? = before.participants[number]?.map fun participant =>
    { participant with fetched := participant.fetched ++ projects }
  others : ∀ other, other ≠ number → after.participants[other]? = before.participants[other]?
  tree : after.tree = before.tree
  unfinished : after.unfinished = before.unfinished

theorem SameGraphs.refl (session : Session) : SameGraphs session session :=
  ⟨fun _ _ => rfl, fun _ => rfl⟩

section Showing

variable {session : Session}

theorem Costs.nothing (session : Session) (number : Nat) : Costs session session number [] where
  asked := by simp
  others := fun _ _ => rfl
  tree := rfl
  unfinished := rfl

theorem Tidy.mem_residents (tidy : session.Tidy) {index : Nat} {project : String} :
    project ∈ session.residents index ↔ (session.loaded? index project).isSome = true := by
  unfold residents loaded?
  cases found : session.caches[index]? with
  | none => simp
  | some cache => exact (tidy.caches cache (List.mem_of_getElem? found)).keyed.mem_residentProjects

theorem pairwise_residents (session : Session) (index : Nat) :
    (session.residents index).Pairwise (· < ·) := by
  unfold residents
  cases session.caches[index]? with
  | none => exact .nil
  | some cache => exact cache.pairwise_residentProjects

/-- Which projects are resident shows in their graphs. -/
theorem Tidy.sameGraphs (tidy : session.Tidy) {after : Session} (tidyAfter : after.Tidy)
    (loaded : ∀ index project, after.loaded? index project = session.loaded? index project) :
    SameGraphs session after where
  loaded := loaded
  residents := by
    intro index
    refine (after.pairwise_residents index).eq_of_mem_iff (session.pairwise_residents index) ?_
    intro project
    rw [tidyAfter.mem_residents, tidy.mem_residents, loaded]

variable {number : Nat} {participant : Participant}
  (here : session.participants[number]? = some participant)

include here

theorem costs_leave {α : Type} (visit : Visit α) :
    Costs session (session.leave number participant visit) number visit.fetched where
  asked := by
    show (session.participants.set number _)[number]? = _
    rw [here, List.getElem?_set_self (List.getElem?_eq_some_iff.mp here).1]
    rfl
  others := fun other different => List.getElem?_set_ne different.symm
  tree := rfl
  unfinished := rfl

theorem Tidy.caches_getElem? (tidy : session.Tidy) :
    session.caches[participant.cache]? = some (session.cacheOf participant) := by
  have placed := tidy.placed participant (List.mem_of_getElem? here)
  unfold Session.cacheOf
  rw [List.getElem?_eq_getElem placed]
  rfl

theorem Tidy.loaded?_own (tidy : session.Tidy) (project : String) :
    session.loaded? participant.cache project =
      (session.cacheOf participant).resident? project := by
  unfold loaded?
  rw [tidy.caches_getElem? here]
  rfl

/-- A visit without a trace leaves the session as it was. -/
theorem Tidy.leave_idle {α : Type} (tidy : session.Tidy) (result : α) :
    session.leave number participant (.idle (session.cacheOf participant) result) = session := by
  obtain ⟨inside, found⟩ := List.getElem?_eq_some_iff.mp here
  obtain ⟨placed, own⟩ := List.getElem?_eq_some_iff.mp (tidy.caches_getElem? here)
  have participants : session.participants.set number participant = session.participants := by
    rw [← found]
    exact List.set_getElem_self inside
  have caches : session.caches.set participant.cache (session.cacheOf participant) =
      session.caches := by
    rw [← own]
    exact List.set_getElem_self placed
  unfold Session.leave Visit.idle
  dsimp only
  rw [List.append_nil, participants, caches]

/-- A visit leaves its cache in the place of the one that it found. -/
theorem Tidy.loaded?_leave {α : Type} (tidy : session.Tidy) (visit : Visit α) (index : Nat)
    (project : String) :
    (session.leave number participant visit).loaded? index project =
      if index = participant.cache then visit.cache.resident? project
      else session.loaded? index project := by
  show ((session.caches.set participant.cache visit.cache)[index]?.bind _) = _
  by_cases own : index = participant.cache
  · subst own
    rw [if_pos rfl, List.getElem?_set_self (tidy.placed participant (List.mem_of_getElem? here))]
    rfl
  · rw [if_neg own, List.getElem?_set_ne (Ne.symm own)]
    rfl

/-- A load changes the graph of its project in the cache of its navigator, and no other. -/
theorem Tidy.loaded?_load {α : Type} (tidy : session.Tidy) {project : String}
    (missing : session.loaded? participant.cache project = none) (load : Loader)
    (fetched : List String) (result : α) (index : Nat) (other : String) :
    (session.leave number participant
        ⟨((session.cacheOf participant).getOrLoad project load).1, fetched, result⟩).loaded?
          index other =
      if index = participant.cache ∧ project = other then
        ((load project).bind CallGraph.ofArtifact).toOption.map (Loaded.mk project)
      else session.loaded? index other := by
  rw [tidy.loaded?_own here] at missing
  rw [tidy.loaded?_leave here]
  by_cases own : index = participant.cache
  · subst own
    rw [if_pos rfl, (tidy.cacheOf participant).atRest.resident?_getOrLoad missing]
    simp only [true_and, tidy.loaded?_own here]
  · rw [if_neg own, if_neg fun both => own both.1]

end Showing

/-! ## Questions while nothing is unfinished -/

/-- What a question leaves behind that a navigator with a number is asked. -/
structure LeavesNoResidue (session : Session) (number : Nat) (participant : Participant)
    (question : Question) (after : Session) (outcome : Outcome) : Prop where
  /-- A question that is refused changes nothing. -/
  refused : ∀ failure, question.refusal? participant.navigator = some failure →
    after = session ∧ outcome = .failed failure
  /-- A question that fails changes no graph, and the failure tells what it has cost: nothing if
  it is a refusal, or else the load of the project, which was not resident. -/
  failed : ∀ failure, outcome = .failed failure → SameGraphs session after ∧
    if failure.isRefusal then
      question.refusal? participant.navigator = some failure ∧ Costs session after number []
    else
      ∃ project, question.project? participant.navigator = some project ∧
        session.loaded? participant.cache project = none ∧
        (participant.loader session.tree project).bind CallGraph.ofArtifact = .error failure ∧
        Costs session after number [project]
  /-- A question that does not fail needs a project, which is loaded if it was not resident. -/
  answered : (∀ failure, outcome ≠ .failed failure) →
    ∃ project, question.project? participant.navigator = some project ∧
      Costs session after number
        (if (session.loaded? participant.cache project).isSome then [] else [project]) ∧
      (∀ index other, other ∈ after.residents index ↔
        other ∈ session.residents index ∨ index = participant.cache ∧ other = project) ∧
      ∀ index other loaded, session.loaded? index other = some loaded →
        after.loaded? index other = some loaded

section Asking

variable {session : Session} {number : Nat} {participant : Participant} {question : Question}

theorem leavesNoResidue_of_refusal? {failure : Failure}
    (refused : question.refusal? participant.navigator = some failure) :
    LeavesNoResidue session number participant question session (.failed failure) where
  refused := by
    intro other same
    obtain rfl := Option.some.inj (refused.symm.trans same)
    exact ⟨rfl, rfl⟩
  failed := by
    intro other same
    obtain rfl := Outcome.failed.inj same
    rw [if_pos (Question.isRefusal_of_refusal? refused)]
    exact ⟨.refl session, refused, .nothing session number⟩
  answered := fun answered => absurd rfl (answered failure)

variable (accepted : question.refusal? participant.navigator = none) {project : String}
  (needed : question.project? participant.navigator = some project)

include accepted needed

/-- A question whose graph is resident changes nothing. -/
theorem Tidy.leavesNoResidue_of_resident (tidy : session.Tidy) {loaded : Loaded}
    (resident : session.loaded? participant.cache project = some loaded) {outcome : Outcome}
    (answered : ∀ failure, outcome ≠ .failed failure) :
    LeavesNoResidue session number participant question session outcome where
  refused := by
    intro failure refused
    rw [accepted] at refused
    cases refused
  failed := fun failure fails => absurd fails (answered failure)
  answered := by
    intro _
    refine ⟨project, needed, ?_, fun index other => ?_, fun _ _ _ there => there⟩
    · rw [resident]
      exact .nothing session number
    · refine (or_iff_left_of_imp ?_).symm
      rintro ⟨rfl, rfl⟩
      rw [tidy.mem_residents, resident]
      rfl

section Loading

variable (tidy : session.Tidy) (here : session.participants[number]? = some participant)
  (missing : session.loaded? participant.cache project = none)

include tidy here missing

/-- A load that fails costs one call of the loader, and changes no graph. -/
theorem Tidy.leavesNoResidue_of_failed {failure : Failure}
    (fails : (participant.loader session.tree project).bind CallGraph.ofArtifact =
      .error failure) :
    LeavesNoResidue session number participant question
      (session.leave number participant
        ⟨((session.cacheOf participant).getOrLoad project (participant.loader session.tree)).1,
          [project], Outcome.failed failure⟩)
      (.failed failure) where
  refused := by
    intro other refused
    rw [accepted] at refused
    cases refused
  failed := by
    intro other same
    obtain rfl := Outcome.failed.inj same
    rw [if_neg (by simp [Participant.isRefusal_of_load fails])]
    have left := (tidy.cacheOf participant).getOrLoad (participant.loader session.tree) project
    refine ⟨tidy.sameGraphs (tidy.leave here left) fun index other => ?_,
      project, needed, missing, fails, costs_leave here _⟩
    rw [tidy.loaded?_load here missing, fails]
    split
    · rename_i own
      obtain ⟨rfl, rfl⟩ := own
      exact missing.symm
    · rfl
  answered := fun answered => absurd rfl (answered failure)

/-- A load that brings a graph costs one call of the loader, and adds the graph. -/
theorem Tidy.leavesNoResidue_of_loaded {graph : CallGraph}
    (brings : (participant.loader session.tree project).bind CallGraph.ofArtifact = .ok graph)
    {outcome : Outcome} (answered : ∀ failure, outcome ≠ .failed failure) :
    LeavesNoResidue session number participant question
      (session.leave number participant
        ⟨((session.cacheOf participant).getOrLoad project (participant.loader session.tree)).1,
          [project], outcome⟩)
      outcome where
  refused := by
    intro failure refused
    rw [accepted] at refused
    cases refused
  failed := fun failure fails => absurd fails (answered failure)
  answered := by
    intro _
    have left := (tidy.cacheOf participant).getOrLoad (participant.loader session.tree) project
    refine ⟨project, needed, ?_, fun index other => ?_, fun index other loaded there => ?_⟩
    · rw [missing]
      exact costs_leave here _
    · rw [(tidy.leave here left).mem_residents, tidy.loaded?_load here missing, brings,
        tidy.mem_residents]
      split
      · rename_i own
        exact iff_of_true rfl (.inr ⟨own.1, own.2.symm⟩)
      · rename_i other
        exact (or_iff_left fun own => other ⟨own.1, own.2.symm⟩).symm
    · rw [tidy.loaded?_load here missing, if_neg, there]
      rintro ⟨rfl, rfl⟩
      rw [missing] at there
      cases there

end Loading

end Asking

/-- Whatever has happened before: where steps come one after another, so that nothing is unfinished,
a click or a request for a graph leaves behind what its outcome says, and nothing else. -/
theorem leavesNoResidue {session : Session} (reached : session.Reachable)
    (quiet : session.unfinished = []) {number : Nat} {participant : Participant}
    (here : session.participants[number]? = some participant) {question : Question}
    (through : question.isThroughCache = true) :
    LeavesNoResidue session number participant question
      (session.step number (.ask question)).1 (session.step number (.ask question)).2 := by
  have tidy := reached.tidy
  rw [step_ask_of_quiet quiet here]
  cases refused : question.refusal? participant.navigator with
  | some failure =>
    rw [participant.visit_of_refusal? _ _ refused]
    dsimp only
    rw [tidy.leave_idle here]
    exact leavesNoResidue_of_refusal? refused
  | none =>
    obtain ⟨project, needed, fails, answers⟩ := Question.needs_of_accepted through refused
    cases resident : session.loaded? participant.cache project with
    | some loaded =>
      have own := (tidy.loaded?_own here project).symm.trans resident
      rw [participant.visit_of_resident _ needed own]
      dsimp only
      rw [tidy.leave_idle here]
      exact tidy.leavesNoResidue_of_resident refused needed resident (answers loaded.graph)
    | none =>
      have own := (tidy.loaded?_own here project).symm.trans resident
      rw [participant.visit_of_missing _ needed (tidy.cacheOf participant).atRest own]
      dsimp only
      cases comes : (participant.loader session.tree project).bind CallGraph.ofArtifact with
      | error failure =>
        rw [fails]
        exact tidy.leavesNoResidue_of_failed refused needed here resident comes
      | ok graph =>
        exact tidy.leavesNoResidue_of_loaded refused needed here resident comes (answers graph)

/-- Two navigators share a cache. One has loaded a graph and served a stream of one blank line, and
the other fails to load another graph. -/
theorem leavesNoResidue_of_shared :
    let navigator : Navigator := ⟨⟨⟨"/ws"⟩⟩, 10⟩
    let source : ArtifactSource := .memory [("App", .object []), ("Bad", .string "")]
    let first := (Session.start.add navigator source none).step 0 (.ask (.graphFor "App"))
    let session := (first.1.step 0 (.serve [0x0A])).1.add navigator source (some 0)
    let question : Question := .click ⟨"/ws/Bad/project/src/a.js", 3, "f"⟩
    session.Sequential ∧
      session.residents 0 = ["App"] ∧
      question.project? navigator = some "Bad" ∧
      LeavesNoResidue session 1 ⟨navigator, source, 0, []⟩ question
        (session.step 1 (.ask question)).1 (session.step 1 (.ask question)).2 := by
  intro navigator source first session question
  have sequential : session.Sequential := by
    refine .add navigator source _ (.step 0 _ ?_ (.step 0 _ nofun (.add navigator source none
      (.start {}))))
    rintro bytes ⟨⟩
    rfl
  exact ⟨sequential, by decide +kernel, by decide +kernel,
    leavesNoResidue sequential.reachable sequential.quiet rfl rfl⟩

end Session

end CallAtlas
