import CallAtlas.Proofs.Cache.Residence
import CallAtlas.Proofs.Session.Lone
import Mathlib.Data.List.Induction

/-!
# The first load of a project

A navigator that works alone answers each question as one that was never asked before would, from
the artifact as it was when the graph of the project was first loaded, or else as it is now. Failed
loads and whatever happened to other projects show in no answer.
-/

namespace CallAtlas.Session

variable (navigator : Navigator) (source : ArtifactSource)

/-- The loader of a navigator over some files. -/
def loaderOver (tree : FileTree) : Loader :=
  (Participant.mk navigator source 0 []).loader tree

/-- Whether a move needs the graph of a project, and the artifact is a call graph at that time. -/
def Move.brings (tree : FileTree) (project : String) : Move → Bool
  | .ask question =>
    question.project? navigator == some project &&
      ((loaderOver navigator source tree project).bind CallGraph.ofArtifact).isOk
  | .write _ _ | .remove _ => false

/-- The files when the graph of a project was first loaded. -/
def firstLoad? (project : String) (tree : FileTree) : List Move → Option FileTree
  | [] => none
  | move :: rest =>
    if move.brings navigator source tree project then some tree
    else firstLoad? project (move.files tree) rest

/-- The files after moves. -/
def filesAfter (tree : FileTree) (moves : List Move) : FileTree :=
  moves.foldl Move.files tree

/-- The files when the graph of a project was first loaded, or else those after all moves. -/
def filesFor (project : String) (tree : FileTree) (moves : List Move) : FileTree :=
  (firstLoad? navigator source project tree moves).getD (filesAfter tree moves)

section History

variable {navigator source} {project : String}

theorem firstLoad?_append (tree : FileTree) (front behind : List Move) :
    firstLoad? navigator source project tree (front ++ behind) =
      (firstLoad? navigator source project tree front).or
        (firstLoad? navigator source project (filesAfter tree front) behind) := by
  induction front generalizing tree with
  | nil => rfl
  | cons move front ih =>
    rw [List.cons_append, firstLoad?, firstLoad?]
    split
    · rfl
    · exact ih (move.files tree)

theorem filesAfter_append (tree : FileTree) (front behind : List Move) :
    filesAfter tree (front ++ behind) = filesAfter (filesAfter tree front) behind :=
  List.foldl_append

/-- A question that brings no graph of a project may as well not have been asked. -/
theorem filesFor_erase {tree : FileTree} {front behind : List Move} {question : Question}
    (idle : (Move.ask question).brings navigator source (filesAfter tree front) project = false) :
    filesFor navigator source project tree (front ++ .ask question :: behind) =
      filesFor navigator source project tree (front ++ behind) := by
  simp only [filesFor, firstLoad?_append, filesAfter_append]
  rw [firstLoad?, idle]
  rfl

end History

/-! ## The cache remembers -/

/-- The files when the graph of a project was first loaded, one move later. -/
def pastAfter (past : String → Option FileTree) (tree : FileTree) (move : Move) (project : String) :
    Option FileTree :=
  (past project).or (if move.brings navigator source tree project then some tree else none)

/-- A cache that holds the graph of each project that was loaded, from the files of that time. -/
structure Remembers (past : String → Option FileTree) (tree : FileTree) (cache : Cache) : Prop where
  faithful : cache.Faithful fun project =>
    loaderOver navigator source ((past project).getD tree) project
  resident : ∀ project, (cache.resident? project).isSome ↔ (past project).isSome

theorem remembers_start (tree : FileTree) :
    Remembers navigator source (fun _ => none) tree {} where
  faithful := Cache.faithful_start _
  resident := by simp [Cache.resident?, Cache.slot?]

section Cache

variable {navigator source} {past : String → Option FileTree} {tree : FileTree} {cache : Cache}
  (remembers : Remembers navigator source past tree cache)

include remembers

/-- Whatever becomes of the files, the cache remembers. -/
theorem Remembers.files (other : FileTree) : Remembers navigator source past other cache where
  faithful := by
    refine remembers.faithful.of_agree fun project there => ?_
    obtain ⟨first, known⟩ := Option.isSome_iff_exists.mp ((remembers.resident project).mp there)
    rw [known]
    rfl
  resident := remembers.resident

/-- The loader that a cache remembers stands for the present one. -/
theorem Remembers.getOrLoad_eq (project : String) :
    cache.getOrLoad project (loaderOver navigator source tree) =
      cache.getOrLoad project fun project =>
        loaderOver navigator source ((past project).getD tree) project := by
  cases known : past project with
  | none =>
    apply Cache.getOrLoad_congr
    rw [known]
    rfl
  | some first =>
    have there := (remembers.resident project).mpr (by rw [known]; rfl)
    obtain ⟨loaded, resident⟩ := Option.isSome_iff_exists.mp there
    rw [Cache.getOrLoad_of_resident resident, Cache.getOrLoad_of_resident resident]

theorem Remembers.result (project : String) :
    (cache.getOrLoad project (loaderOver navigator source tree)).2.1 =
      (loaderOver navigator source ((past project).getD tree) project).bind
        CallGraph.ofArtifact := by
  rw [remembers.getOrLoad_eq]
  exact (remembers.faithful.getOrLoad project).2

theorem Remembers.asked (project : String) :
    (cache.getOrLoad project (loaderOver navigator source tree)).2.2 = (past project).isNone := by
  have same := Bool.eq_iff_iff.mpr (remembers.resident project)
  rw [← Option.not_isSome, ← same]
  cases resident : cache.resident? project with
  | none =>
    rw [remembers.faithful.sound.returns_getOrLoad resident]
    rfl
  | some loaded =>
    rw [Cache.getOrLoad_of_resident resident]
    rfl

/-- A question for a project adds it to those that are resident if its artifact is a call graph. -/
theorem Remembers.resident_getOrLoad (project other : String) :
    ((cache.getOrLoad project (loaderOver navigator source tree)).1.resident? other).isSome ↔
      (past other).isSome ∨ project = other ∧
        ((loaderOver navigator source tree project).bind CallGraph.ofArtifact).isOk := by
  rw [← remembers.resident other]
  cases resident : cache.resident? project with
  | none =>
    have unknown : past project = none := by
      rw [← Option.not_isSome_iff_eq_none, ← remembers.resident, resident]
      exact Bool.false_ne_true
    rw [remembers.getOrLoad_eq, remembers.faithful.atRest.resident?_getOrLoad resident, unknown,
      Option.getD_none]
    split
    · rename_i same
      subst same
      rw [resident]
      cases (loaderOver navigator source tree project).bind CallGraph.ofArtifact <;>
        simp [Except.toOption, Except.isOk, Except.toBool]
    · rename_i different
      exact (or_iff_left fun both => different both.1).symm
  | some loaded =>
    rw [Cache.getOrLoad_of_resident resident]
    refine (or_iff_left_of_imp ?_).symm
    rintro ⟨rfl, -⟩
    rw [resident]
    rfl

omit remembers in
/-- What a move brings comes from the files of the move. -/
theorem getD_pastAfter (move : Move) (project : String) :
    (pastAfter navigator source past tree move project).getD tree = (past project).getD tree := by
  unfold pastAfter
  cases past project with
  | none => split <;> rfl
  | some first => rfl

omit remembers in
theorem isSome_pastAfter (move : Move) (project : String) :
    (pastAfter navigator source past tree move project).isSome ↔
      (past project).isSome ∨ move.brings navigator source tree project := by
  rw [pastAfter, Option.isSome_or, Bool.or_eq_true]
  refine or_congr_right ?_
  split <;> simp [*]

/-- A question leaves a cache that remembers also what the question has brought. -/
theorem Remembers.ask (question : Question) :
    Remembers navigator source (pastAfter navigator source past tree (.ask question)) tree
      ((Participant.mk navigator source 0 []).visit tree cache question).cache := by
  cases needed : question.project? navigator with
  | none =>
    obtain ⟨fetched, outcome, visits⟩ :=
      (Participant.mk navigator source 0 []).visit_of_project?_eq_none tree needed
    rw [visits]
    refine ⟨?_, fun project => ?_⟩
    · simp only [getD_pastAfter]
      exact remembers.faithful
    · rw [isSome_pastAfter, remembers.resident project]
      simp [Move.brings, needed]
  | some wanted =>
    rw [(Participant.mk navigator source 0 []).visit_of_project tree needed]
    refine ⟨?_, fun project => ?_⟩
    · have loaded := (remembers.faithful.getOrLoad wanted).1
      rw [← remembers.getOrLoad_eq] at loaded
      simp only [getD_pastAfter]
      exact loaded
    · rw [isSome_pastAfter]
      refine (remembers.resident_getOrLoad wanted project).trans (or_congr_right ?_)
      simp only [Move.brings, needed, Bool.and_eq_true, beq_iff_eq, Option.some.injEq]
      refine and_congr_right ?_
      rintro rfl
      rfl

end Cache

/-! ## From a fresh navigator on -/

theorem play_concat (session : Session) (moves : List Move) (move : Move) :
    session.play (moves ++ [move]) = ((session.play moves).step 0 move.step).1 :=
  List.foldl_concat _ _ _ _

/-- After any moves the cache remembers the first loads, and the navigator is still alone. -/
theorem remembers_play (tree : FileTree) (moves : List Move) :
    ∃ cache fetched,
      (fresh navigator source tree).play moves =
        lone navigator source (filesAfter tree moves) cache fetched ∧
      Remembers navigator source (fun project => firstLoad? navigator source project tree moves)
        (filesAfter tree moves) cache := by
  induction moves using List.reverseRecOn with
  | nil =>
    exact ⟨{}, [], fresh_eq_lone navigator source tree, remembers_start navigator source tree⟩
  | append_singleton moves move ih =>
    obtain ⟨cache, fetched, alone, remembers⟩ := ih
    have past : (fun project => firstLoad? navigator source project tree (moves ++ [move])) =
        pastAfter navigator source (fun project => firstLoad? navigator source project tree moves)
          (filesAfter tree moves) move :=
      funext fun project => firstLoad?_append tree moves [move]
    rw [play_concat, alone, past, filesAfter_append]
    cases move with
    | ask question =>
      rw [Move.step, step_ask_lone]
      exact ⟨_, _, rfl, remembers.ask question⟩
    | write path node | remove path =>
      refine ⟨cache, fetched, rfl, ?_⟩
      unfold pastAfter
      simp only [Move.brings, Bool.false_eq_true, if_false, Option.or_none]
      exact remembers.files _

/-- The outcome of a question after moves of a navigator that works alone. -/
def outcomeAfter (tree : FileTree) (moves : List Move) (question : Question) : Outcome :=
  (((fresh navigator source tree).play moves).step 0 (.ask question)).2

variable {navigator source} {tree : FileTree} {question : Question}

theorem outcomeAfter_nil (tree : FileTree) (question : Question) :
    outcomeAfter navigator source tree [] question =
      ((Participant.mk navigator source 0 []).visit tree {} question).result :=
  congrArg Prod.snd (step_ask_lone navigator source tree {} [] question)

/-- A question that needs a graph is answered from the artifact as it was at the first load. -/
theorem outcomeAfter_of_project {project : String}
    (needed : question.project? navigator = some project) (moves : List Move) :
    outcomeAfter navigator source tree moves question =
      question.outcome navigator
        ((loaderOver navigator source (filesFor navigator source project tree moves) project).bind
          CallGraph.ofArtifact) := by
  obtain ⟨cache, fetched, alone, remembers⟩ := remembers_play navigator source tree moves
  rw [outcomeAfter, alone, step_ask_lone]
  dsimp only
  rw [(Participant.mk navigator source 0 []).visit_of_project _ needed]
  exact congrArg (question.outcome navigator ·) (remembers.result project)

/-- A question that needs no graph is answered from the present files. -/
theorem outcomeAfter_of_project?_eq_none (free : question.project? navigator = none)
    (moves : List Move) :
    outcomeAfter navigator source tree moves question =
      outcomeAfter navigator source (filesAfter tree moves) [] question := by
  obtain ⟨cache, fetched, alone, -⟩ := remembers_play navigator source tree moves
  obtain ⟨asked, outcome, visits⟩ :=
    (Participant.mk navigator source 0 []).visit_of_project?_eq_none (filesAfter tree moves) free
  rw [outcomeAfter_nil, outcomeAfter, alone, step_ask_lone, visits, visits]

/-- What the loader of a navigator that works alone was asked for after some moves. -/
def askedFor (session : Session) : List String :=
  session.participants.flatMap Participant.fetched

theorem askedFor_lone (cache : Cache) (fetched : List String) :
    askedFor (lone navigator source tree cache fetched) = fetched :=
  List.append_nil fetched

variable (navigator source tree) in
/-- A navigator that works alone remembers the first load of each project, and nothing else. -/
structure AnswersFromFirstLoad (moves : List Move) : Prop where
  /-- A question for a project is answered as over the files of the first load of the project. -/
  fresh : ∀ question project, question.project? navigator = some project →
    outcomeAfter navigator source tree moves question =
      outcomeAfter navigator source (filesFor navigator source project tree moves) [] question
  /-- Any other question is answered as over the present files. -/
  present : ∀ question, question.project? navigator = none →
    outcomeAfter navigator source tree moves question =
      outcomeAfter navigator source (filesAfter tree moves) [] question
  /-- A click is answered as it is by a navigator that gets the artifact of the first load. -/
  click : ∀ click query load, navigator.workspace.query click = .ok query →
    load query.project =
      loaderOver navigator source (filesFor navigator source query.project tree moves)
        query.project →
    outcomeAfter navigator source tree moves (.click click) =
      .of .answer (navigator.resolveClick load {} click).result
  /-- A graph is the one that a navigator gets from the artifact of the first load. -/
  graphFor : ∀ project load,
    load project =
      loaderOver navigator source (filesFor navigator source project tree moves) project →
    outcomeAfter navigator source tree moves (.graphFor project) =
      .of .graph (Navigator.graphFor load {} project).result
  /-- The loader is asked for a project as long as no load of it has brought a graph. -/
  loads : ∀ question project, question.project? navigator = some project →
    askedFor (((Session.fresh navigator source tree).play moves).step 0 (.ask question)).1 =
      askedFor ((Session.fresh navigator source tree).play moves) ++
        if (firstLoad? navigator source project tree moves).isNone then [project] else []
  /-- Nothing but that artifact shows in the answer, whatever else was done over whatever files. -/
  artifact : ∀ question project, question.project? navigator = some project →
    ∀ otherTree others,
      loaderOver navigator source (filesFor navigator source project otherTree others) project =
        loaderOver navigator source (filesFor navigator source project tree moves) project →
      outcomeAfter navigator source otherTree others question =
        outcomeAfter navigator source tree moves question
  /-- A load that fails, or of another project, leaves no trace in later answers. -/
  traceless : ∀ question project, question.project? navigator = some project →
    ∀ front other behind, moves = front ++ .ask other :: behind →
      (Move.ask other).brings navigator source (filesAfter tree front) project = false →
      outcomeAfter navigator source tree moves question =
        outcomeAfter navigator source tree (front ++ behind) question

/-- Whatever was done before, answers come from the artifact of the first load, or the present. -/
theorem answersFromFirstLoad (moves : List Move) :
    AnswersFromFirstLoad navigator source tree moves where
  fresh := by
    intro question project needed
    rw [outcomeAfter_of_project needed, outcomeAfter_of_project needed []]
    rfl
  present := fun question free => outcomeAfter_of_project?_eq_none free moves
  click := by
    intro click query load became same
    have named := Workspace.isProjectName_of_projectOf (Workspace.query_eq_ok became).1
    have needed : (Question.click click).project? navigator = some query.project := by
      simp only [Question.project?, Errand.project?, became]
      rfl
    rw [outcomeAfter_of_project needed, ← same, ← Navigator.result_graphFor_start named]
    simp only [Question.outcome, Navigator.resolveClick, became]
    rfl
  graphFor := by
    intro project load same
    by_cases named : isProjectName project = true
    · have needed : (Question.graphFor project).project? navigator = some project := if_pos named
      rw [outcomeAfter_of_project needed, ← same, ← Navigator.result_graphFor_start named]
      rfl
    · have free : (Question.graphFor project).project? navigator = none := if_neg named
      rw [outcomeAfter_of_project?_eq_none free, outcomeAfter_nil]
      show Outcome.of .graph (Navigator.graphFor _ {} project).result = _
      rw [Navigator.graphFor, Navigator.graphFor, checkProjectName, if_neg named]
  loads := by
    intro question project needed
    obtain ⟨cache, fetched, alone, remembers⟩ := remembers_play navigator source tree moves
    rw [alone, step_ask_lone]
    dsimp only
    rw [(Participant.mk navigator source 0 []).visit_of_project _ needed, askedFor_lone,
      askedFor_lone, ← remembers.asked project]
    rfl
  artifact := by
    intro question project needed otherTree others same
    rw [outcomeAfter_of_project needed, outcomeAfter_of_project needed, same]
  traceless := by
    rintro question project needed front other behind rfl idle
    rw [outcomeAfter_of_project needed, outcomeAfter_of_project needed, filesFor_erase idle]

-- The artifact is written after a failed load and removed after the first that brings a graph.
example :
    let artifact : Path := ⟨"ws/App/reports/app_callgraph.json"⟩
    let node : Node := .file "\x7b\"call_graph\":\x7b\x7d\x7d".toUTF8.toList
    firstLoad? ⟨⟨⟨"ws"⟩⟩, 10⟩ .files "App" {}
        [.ask (.graphFor "App"), .write artifact node, .ask (.graphFor "App"), .remove artifact,
          .ask (.graphFor "App")] = some (FileTree.write {} artifact node) := by
  decide +kernel

end CallAtlas.Session
