import CallAtlas.Proofs.Navigator.Click
import CallAtlas.Proofs.Server.Response
import CallAtlas.Server.Basic

/-!
# The course of a request

A request is settled at once, or it needs the graph of one project and is settled when it has it.
Which of the two is clear before anything is loaded, and all that the cache and the loader can
change is the graph that comes back.
-/

namespace CallAtlas

/-- How something is worked out: at once, or from the graph of a project and the cache as it is when
the graph is there. -/
inductive Course (α : Type) where
  | ready (result : α)
  | needs (project : String) (result : Cache → Except Failure CallGraph → α)

namespace Course

variable {α β : Type}

def map (f : α → β) : Course α → Course β
  | .ready result => .ready (f result)
  | .needs project result => .needs project fun cache graph => f (result cache graph)

/-- The course of work that nobody else keeps waiting. -/
def visit (load : Loader) (cache : Cache) : Course α → Visit α
  | .ready result => .idle cache result
  | .needs project result =>
    let (after, graph, asked) := cache.getOrLoad project load
    ⟨after, if asked then [project] else [], result after graph⟩

/-- What a course can come to, by what the cache returned for the graph that it needs, if any. -/
inductive Yields : Course α → Option (Except Failure CallGraph) → α → Prop where
  | ready (result : α) : Yields (.ready result) none result
  | needs (project : String) (result : Cache → Except Failure CallGraph → α) (cache : Cache)
      (graph : Except Failure CallGraph) :
    Yields (.needs project result) (some graph) (result cache graph)

/-- The project whose graph is needed. -/
def project? : Course α → Option String
  | .ready _ => none
  | .needs project _ => some project

theorem project?_map (f : α → β) (course : Course α) :
    (course.map f).project? = course.project? := by
  cases course <;> rfl

theorem visit_map (f : α → β) (load : Loader) (cache : Cache) (course : Course α) :
    (course.map f).visit load cache = (course.visit load cache).map f := by
  cases course <;> rfl

theorem Yields.of_map {f : α → β} {course : Course α} {graph? : Option (Except Failure CallGraph)}
    {result : β} (yields : (course.map f).Yields graph? result) :
    ∃ own, course.Yields graph? own ∧ result = f own := by
  cases course with
  | ready own =>
    cases yields with
    | ready => exact ⟨own, .ready own, rfl⟩
  | needs project own =>
    cases yields with
    | needs _ _ cache graph => exact ⟨own cache graph, .needs project own cache graph, rfl⟩

/-- The cache is called exactly for a graph that is needed. -/
theorem Yields.isSome_eq {course : Course α} {graph? : Option (Except Failure CallGraph)}
    {result : α} (yields : course.Yields graph? result) :
    graph?.isSome = course.project?.isSome := by
  cases yields <;> rfl

end Course

/-- The failure of a result that has one. -/
def Failure.of? {α : Type} : Except Failure α → Option Failure
  | .ok _ => none
  | .error failure => some failure

theorem Failure.of?_eq_some_iff {α : Type} {result : Except Failure α} {failure : Failure} :
    Failure.of? result = some failure ↔ result = .error failure := by
  cases result <;> simp [Failure.of?]

theorem Failure.of?_eq_none_iff {α : Type} {result : Except Failure α} :
    Failure.of? result = none ↔ ∃ a, result = .ok a := by
  cases result <;> simp [Failure.of?]

variable (navigator : Navigator)

namespace Errand

/-- The course of an errand. -/
def course : Errand → Course (Except RequestFault Json)
  | .resolve click =>
    match navigator.workspace.query click with
    | .error failure => .ready (.error (.failed failure))
    | .ok query =>
      .needs query.project fun _ graph =>
        outcome answerResult (graph.map (navigator.answer query))
  | .openCaller click =>
    .ready (.ok (Json.optional CallerLink.toJson
      (parseCallerClick click.text click.row click.selection)))
  | .info project =>
    match checkProjectName project with
    | .error failure => .ready (.error (.failed failure))
    | .ok () =>
      .needs project fun cache graph =>
        outcome (fun graph => infoResult project graph.stats cache) graph
  | .ping => .ready (.ok (.object []))

/-- An errand is carried out along its course. -/
theorem run_eq_visit (load : Loader) (cache : Cache) (errand : Errand) :
    errand.run navigator load cache = (errand.course navigator).visit load cache := by
  cases errand with
  | resolve click =>
    simp only [run, course, Navigator.resolveClick]
    cases became : navigator.workspace.query click with
    | error failure => rfl
    | ok query =>
      have named := Workspace.isProjectName_of_projectOf (Workspace.query_eq_ok became).1
      simp only [Navigator.graphFor, checkProjectName, if_pos named]
      rfl
  | openCaller click => rfl
  | info project =>
    simp only [run, course, Navigator.graphFor]
    cases checkProjectName project with
    | error failure => rfl
    | ok accepted => rfl
  | ping => rfl

theorem project?_course (errand : Errand) :
    (errand.course navigator).project? = errand.project? navigator := by
  cases errand with
  | resolve click =>
    simp only [course, project?]
    cases navigator.workspace.query click <;> rfl
  | openCaller click => rfl
  | info project =>
    simp only [course, project?, checkProjectName]
    by_cases named : isProjectName project = true
    · rw [if_pos named, if_pos named]
      rfl
    · rw [if_neg named, if_neg named]
      rfl
  | ping => rfl

/-- Why an errand is refused before anything is loaded. -/
def refusal? : Errand → Option Failure
  | .resolve click => Failure.of? (navigator.workspace.query click)
  | .info project => Failure.of? (checkProjectName project)
  | .openCaller _ | .ping => none

/-- The failure of an errand: it is refused, or the graph that it needs cannot be had. -/
def failure? (graph? : Option (Except Failure CallGraph)) (errand : Errand) : Option Failure :=
  (errand.refusal? navigator).or (graph?.bind Failure.of?)

/-- The results of an errand, by its failure. -/
inductive Ends : Option Failure → Except RequestFault Json → Prop where
  | succeeds (value : Json) : Ends none (.ok value)
  | fails (failure : Failure) : Ends (some failure) (.error (.failed failure))

theorem ends_outcome {α : Type} (encode : α → Json) (result : Except Failure α) :
    Ends (Failure.of? result) (outcome encode result) := by
  cases result with
  | ok a => exact .succeeds (encode a)
  | error failure => exact .fails failure

variable {navigator} {graph? : Option (Except Failure CallGraph)}

/-- An errand fails exactly with its failure. -/
theorem ends_of_yields {errand : Errand} {result : Except RequestFault Json}
    (yields : (errand.course navigator).Yields graph? result) :
    Ends (errand.failure? navigator graph?) result := by
  cases errand with
  | resolve click =>
    simp only [course] at yields
    simp only [failure?, refusal?]
    cases became : navigator.workspace.query click with
    | error failure =>
      rw [became] at yields
      cases yields with
      | ready => exact .fails failure
    | ok query =>
      rw [became] at yields
      cases yields with
      | needs _ _ cache graph =>
        cases graph with
        | ok graph => exact .succeeds _
        | error failure => exact .fails failure
  | openCaller click =>
    cases yields with
    | ready => exact .succeeds _
  | info project =>
    simp only [course] at yields
    simp only [failure?, refusal?]
    cases checked : checkProjectName project with
    | error failure =>
      rw [checked] at yields
      cases yields with
      | ready => exact .fails failure
    | ok accepted =>
      rw [checked] at yields
      cases yields with
      | needs _ _ cache graph => exact ends_outcome _ graph
  | ping =>
    cases yields with
    | ready => exact .succeeds _

end Errand

/-- The failure of the work on a request, if it asks for work that can be done. -/
def Request.failure? (graph? : Option (Except Failure CallGraph)) (request : Request) :
    Option Failure :=
  (Errand.ofMethod? request.method request.params).toOption.bind
    (Errand.failure? navigator graph?)

namespace Message

/-- The course of a message to its response, if it has one. -/
def course : Message → Course (Option Response)
  | .blank | .notification => .ready none
  | .unreadable error => .ready (some (.unreadable error))
  | .request id method params =>
    match Errand.ofMethod? method params with
    | .error fault => .ready (some (.reply id (.error fault)))
    | .ok errand => (errand.course navigator).map fun result => some (.reply id result)

/-- A message is answered along its course. -/
theorem answerMessage_eq_visit (load : Loader) (cache : Cache) (message : Message) :
    navigator.answerMessage load cache message =
      (message.course navigator).visit load cache := by
  cases message with
  | blank | notification | unreadable error => rfl
  | request id method params =>
    unfold Navigator.answerMessage Navigator.respond course
    dsimp only
    cases Errand.ofMethod? method params with
    | error fault => rfl
    | ok errand =>
      dsimp only
      rw [Errand.run_eq_visit, Course.visit_map]
      rfl

theorem project?_course (message : Message) :
    (message.course navigator).project? = message.project? navigator := by
  cases message with
  | blank | notification | unreadable error => rfl
  | request id method params =>
    simp only [course, project?]
    cases Errand.ofMethod? method params with
    | error fault => rfl
    | ok errand => exact (Course.project?_map _ _).trans (Errand.project?_course navigator errand)

variable {navigator}

/-- A request with an id is answered, whatever the cache returns. -/
theorem answers_of_yields {request : Request} {id : Json} (isId : Request.IsId id)
    {graph? : Option (Except Failure CallGraph)} {response? : Option Response}
    (yields : ((Message.request id request.method request.params).course navigator).Yields graph?
      response?) :
    ∃ response, response? = some response ∧
      response.Answers request id (request.failure? navigator graph?) := by
  have decoded := Errand.decoded_ofMethod? request.method request.params
  simp only [course] at yields
  unfold Request.failure?
  cases found : Errand.ofMethod? request.method request.params with
  | error fault =>
    rw [found] at yields decoded
    cases yields with
    | ready => exact ⟨_, rfl, Response.answers_fault isId decoded⟩
  | ok errand =>
    rw [found] at yields decoded
    obtain ⟨result, carried, rfl⟩ := yields.of_map
    refine ⟨_, rfl, ?_⟩
    have ends := Errand.ends_of_yields carried
    show (Response.reply id result).Answers request id (errand.failure? navigator graph?)
    generalize errand.failure? navigator graph? = failure? at ends ⊢
    cases ends with
    | succeeds value => exact Response.answers_ok isId decoded
    | fails failure => exact Response.answers_failed isId decoded

end Message

end CallAtlas
