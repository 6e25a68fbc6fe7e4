import CallAtlas.Proofs.Cache.Stock
import CallAtlas.Proofs.Server.Completion
import CallAtlas.Proofs.Server.Stream

/-!
# The order of work does not show

Requests that ask nothing about the cache itself are answered from one store of artifacts in the
same way whatever the order of work, whatever the cache held before, and whatever else was asked: as
if each were alone. A failure that is shared looks like the failure of one's own load, because no
store fails in the one way that is changed when it is shared.
-/

namespace CallAtlas

namespace Course

variable {α β : Type}

/-- What a course comes to if the cache returns what a store gives. -/
def settle (load : Loader) (cache : Cache) : Course α → α
  | .ready result => result
  | .needs project result => result cache (load.graph project)

/-- Of the cache nothing matters but the graph that it returns. -/
def Steady : Course α → Prop
  | .ready _ => True
  | .needs _ result => ∀ cache other graph, result cache graph = result other graph

theorem Steady.map {course : Course α} (steady : course.Steady) (f : α → β) :
    (course.map f).Steady := by
  cases course with
  | ready => trivial
  | needs project result => exact fun cache other graph => congrArg f (steady cache other graph)

theorem Steady.settle_eq {course : Course α} (steady : course.Steady) (load : Loader)
    (cache other : Cache) : course.settle load cache = course.settle load other := by
  cases course with
  | ready => rfl
  | needs project result => exact steady cache other (load.graph project)

/-- Whoever keeps nobody waiting gets what the store gives. -/
theorem visit_of_faithful {load : Loader} {cache : Cache} (faithful : cache.Faithful load)
    (course : Course α) :
    (course.visit load cache).cache.Faithful load ∧
      (course.visit load cache).result =
        course.settle load (course.visit load cache).cache := by
  cases course with
  | ready result => exact ⟨faithful, rfl⟩
  | needs project result =>
    obtain ⟨after, same⟩ := faithful.getOrLoad project
    exact ⟨after, congrArg (result _) same⟩

end Course

/-- Only one method asks for the counts of a graph. -/
theorem Errand.method_of_info {method : String} {params : Option Json} {project : String}
    (read : ofMethod? method params = .ok (.info project)) : method = "info" := by
  have other {α : Type} {decode : Decoder α} {make : α → Errand}
      (apart : ∀ a, make a ≠ .info project)
      (read : (decodeParams decode params).map make = .ok (.info project)) : False := by
    cases decoded : decodeParams decode params with
    | error fault =>
      rw [decoded] at read
      cases read
    | ok a =>
      rw [decoded] at read
      exact apart a (Except.ok.inj read)
  unfold ofMethod? at read
  split at read
  · exact (other nofun read).elim
  · exact (other nofun read).elim
  · rfl
  · cases read
  · cases read

/-- The method that a message asks for. -/
def Message.method? : Message → Option String
  | .request _ method _ => some method
  | .blank | .notification | .unreadable _ => none

/-- Only a request for the counts of a graph tells anything else about the cache. -/
theorem Message.steady_course (navigator : Navigator) {message : Message}
    (apart : message.method? ≠ some "info") : (message.course navigator).Steady := by
  cases message with
  | blank | notification | unreadable => trivial
  | request id method params =>
    simp only [course]
    cases read : Errand.ofMethod? method params with
    | error fault => trivial
    | ok errand =>
      refine Course.Steady.map ?_ _
      cases errand with
      | resolve click =>
        simp only [Errand.course]
        cases navigator.workspace.query click with
        | error failure => trivial
        | ok query => exact fun _ _ _ => rfl
      | openCaller click | ping => trivial
      | info project => exact absurd (congrArg some (Errand.method_of_info read)) apart

namespace Navigator

variable (navigator : Navigator) (load : Loader)

/-- The response to a line that is the only one, from a server that has just started. -/
def alone (line : String) : Option Response :=
  (navigator.answerMessage load {} (Message.ofLine line)).result

variable {navigator load} {line : String}

theorem alone_eq_settle (apart : (Message.ofLine line).method? ≠ some "info") (cache : Cache) :
    navigator.alone load line =
      ((Message.ofLine line).course navigator).settle load cache := by
  rw [alone, Message.answerMessage_eq_visit,
    (Course.visit_of_faithful (Cache.faithful_start load) _).2]
  exact (Message.steady_course navigator apart).settle_eq load _ cache

/-- In the order of the lines each gets the response that it gets alone. -/
theorem result_answerAll_eq_alone {lines : List String}
    (apart : ∀ line ∈ lines, (Message.ofLine line).method? ≠ some "info") {cache : Cache}
    (faithful : cache.Faithful load) :
    (navigator.answerAll load cache (lines.map Message.ofLine)).result =
      lines.filterMap (navigator.alone load) := by
  induction lines generalizing cache with
  | nil => rfl
  | cons line rest ih =>
    obtain ⟨after, result⟩ :=
      Course.visit_of_faithful faithful ((Message.ofLine line).course navigator)
    have own : navigator.alone load line = _ := alone_eq_settle (apart line List.mem_cons_self)
      (((Message.ofLine line).course navigator).visit load cache).cache
    rw [← Message.answerMessage_eq_visit] at after result own
    rw [List.map_cons, answerAll]
    dsimp only
    rw [ih (fun other member => apart other (List.mem_cons_of_mem _ member)) after, result, ← own,
      filterMap_cons_eq_append]

end Navigator

/-- A call that a task waits for returns what the store gives. -/
theorem Task.Turned.settled {navigator : Navigator} {load : Loader} (store : IsStore load)
    {cache after : Cache} (stocked : cache.Stocked load) {task : Task} {handling : Handling}
    (turned : task.Turned navigator (.ofLoader load) cache after handling) :
    after.Stocked load ∧ ∀ graph? response?, handling = .done graph? response? →
      ∃ cache, response? = (task.course navigator).settle load cache := by
  cases turned with
  | settles response? due course =>
    refine ⟨stocked, ?_⟩
    rintro _ _ ⟨⟩
    exact ⟨cache, by rw [course]; rfl⟩
  | asks project result course name step takes draws progress polls =>
    refine ⟨stocked.act draws, ?_⟩
    intro graph? response? stands
    cases returned : progress.result? with
    | none =>
      rw [returned] at stands
      cases stands
    | some loaded =>
      rw [returned] at stands
      cases stands
      have copy := stocked.isCopyOf draws polls.event returned
      refine ⟨(cache.act .dropIdle step).1, ?_⟩
      rw [course, store.eq_of_isCopyOf copy]
      rfl

namespace Shift

/-- All tasks that are done got what a store gives. -/
structure Supplied (navigator : Navigator) (load : Loader) (shift : Shift) : Prop where
  stocked : shift.cache.Stocked load
  settled : ∀ task ∈ shift.tasks, ∀ graph? response?, task.handling = .done graph? response? →
    ∃ cache, response? = (task.course navigator).settle load cache

variable {navigator : Navigator} {load : Loader} {lines : List String}

theorem supplied_start {cache : Cache} (stocked : cache.Stocked load) (navigator : Navigator)
    (lines : List String) : (start cache lines).Supplied navigator load where
  stocked := stocked
  settled := by
    intro task member graph? response? stands
    obtain ⟨line, -, rfl⟩ := List.mem_map.mp member
    unfold Task.ofLine at stands
    cases silent : (Message.ofLine line).isSilent with
    | true =>
      rw [silent] at stands
      cases stands
      refine ⟨cache, ?_⟩
      show none = ((Message.ofLine line).course navigator).settle load cache
      rw [Message.course_of_isSilent navigator silent]
      rfl
    | false =>
      rw [silent] at stands
      cases stands

/-- A step leaves all tasks that are done with what the store gives. -/
theorem Supplied.step {shift after : Shift} (supplied : shift.Supplied navigator load)
    (store : IsStore load) (sound : shift.Sound navigator lines)
    (step : Step navigator (.ofLoader load) shift after) : after.Supplied navigator load := by
  cases step with
  | works cache after before behind task handling sent turn =>
    have present : task ∈ before ++ task :: behind :=
      List.mem_append_right _ List.mem_cons_self
    have turned := turn.turned (sound.fits task present) sound.reachable
    obtain ⟨stocked, settled⟩ := turned.settled store supplied.stocked
    refine ⟨stocked, ?_⟩
    intro other member graph? response? stands
    rcases List.mem_cons.mp (List.perm_middle.mem_iff.mp member) with rfl | member
    · exact settled graph? response? stands
    · exact supplied.settled other (List.perm_middle.mem_iff.mpr (List.mem_cons_of_mem _ member))
        graph? response? stands
  | others shift step draws apart => exact ⟨supplied.stocked.act draws, supplied.settled⟩

theorem Supplied.steps {shift after : Shift} (supplied : shift.Supplied navigator load)
    (store : IsStore load) (sound : shift.Sound navigator lines)
    (steps : Steps navigator (.ofLoader load) shift after) :
    after.Sound navigator lines ∧ after.Supplied navigator load := by
  induction steps with
  | refl => exact ⟨sound, supplied⟩
  | tail steps step ih => exact ⟨ih.1.step step, ih.2.step store ih.1 step⟩

variable {cache : Cache} (store : IsStore load) (stocked : cache.Stocked load)
  (apart : ∀ line ∈ lines, (Message.ofLine line).method? ≠ some "info") {shift : Shift}
  (worked : Steps navigator (.ofLoader load) (start cache lines) shift)

include store stocked apart worked

/-- Whatever the order of work, a line gets the response that it gets alone. -/
theorem response_eq_alone {task : Task} (member : task ∈ shift.tasks)
    {graph? : Option (Except Failure CallGraph)} {response? : Option Response}
    (stands : task.handling = .done graph? response?) :
    response? = navigator.alone load task.line := by
  obtain ⟨sound, supplied⟩ := (supplied_start stocked navigator lines).steps store
    (sound_start stocked.reachable navigator lines) worked
  have present : task.line ∈ lines := by
    rw [← sound.lines]
    exact List.mem_map_of_mem member
  obtain ⟨other, rfl⟩ := supplied.settled task member graph? response? stands
  exact (Navigator.alone_eq_settle (apart task.line present) other).symm

/-- Whatever the order of work, the responses are those that the lines get alone. -/
theorem sent_perm_alone (finished : shift.Finished) :
    shift.sent.Perm (lines.filterMap (navigator.alone load)) := by
  have sound := (sound_start stocked.reachable navigator lines).steps worked
  have same : shift.responses =
      shift.tasks.filterMap fun task => navigator.alone load task.line := by
    refine List.filterMap_congr fun task member => ?_
    have done := finished task member
    cases stands : task.handling with
    | due | waiting => rw [stands] at done; cases done
    | done graph? response? =>
      exact response_eq_alone store stocked apart worked member stands
  rw [← sound.lines, List.filterMap_map]
  exact same ▸ sound.sent

end Shift

namespace Navigator

/-- How the answers to a stream of lines hide the order of work and all that was there before. -/
structure HidesOrder (navigator : Navigator) (load : Loader) (cache : Cache) (bytes : List UInt8)
    (lines : List String) : Prop where
  /-- A line that is the only one of a stream gets its response alone from a server that has just
  started, and each line is the only one of some stream. -/
  alone : ∀ line ∈ lines, (∃ stream, (streamLines stream).mapM Text.Utf8.text = .ok [line]) ∧
    ∀ stream, (streamLines stream).mapM Text.Utf8.text = .ok [line] →
      (navigator.serve load {} stream).result = ⟨(navigator.alone load line).toList, none⟩
  /-- Each line gets the response that it gets alone. -/
  response : ∀ shift, Shift.Steps navigator (.ofLoader load) (.start cache lines) shift →
    ∀ task ∈ shift.tasks, ∀ graph? response?, task.handling = .done graph? response? →
      response? = navigator.alone load task.line
  /-- The responses are those that the lines get alone. -/
  responses : ∀ shift, Shift.Steps navigator (.ofLoader load) (.start cache lines) shift →
    shift.Finished → shift.sent.Perm (lines.filterMap (navigator.alone load))
  /-- All lines can be done with at any time. -/
  completed : ∀ shift, Shift.Steps navigator (.ofLoader load) (.start cache lines) shift →
    ∃ after, Shift.Steps navigator (.ofLoader load) shift after ∧ after.Finished
  /-- Other orders of the lines and of the work, with another cache stocked from the store, give the
  same responses. -/
  reordered : ∀ others : List Cache.Step, (∀ step ∈ others, step.DrawsFrom (.ofLoader load)) →
    ∀ permuted, permuted.Perm lines → ∀ shift other,
      Shift.Steps navigator (.ofLoader load) (.start cache lines) shift → shift.Finished →
      Shift.Steps navigator (.ofLoader load)
        (.start (Cache.Run.start.steps .dropIdle others).cache permuted) other → other.Finished →
      other.sent.Perm shift.sent
  /-- A server that nobody else keeps waiting gives them in the order of the lines. -/
  inOrder : cache.calls = [] →
    (navigator.serve load cache bytes).result = ⟨lines.filterMap (navigator.alone load), none⟩

/-- Without requests for the counts of graphs, nothing but the lines and the store shows in the
responses. -/
theorem hidesOrder (navigator : Navigator) {load : Loader} (store : IsStore load)
    {steps : List Cache.Step} (draws : ∀ step ∈ steps, step.DrawsFrom (.ofLoader load))
    {bytes : List UInt8} {lines : List String}
    (read : (streamLines bytes).mapM Text.Utf8.text = .ok lines)
    (apart : ∀ line ∈ lines, (Message.ofLine line).method? ≠ some "info") :
    navigator.HidesOrder load (Cache.Run.start.steps .dropIdle steps).cache bytes lines where
  alone := by
    intro line member
    refine ⟨exists_alone read member, fun stream single => ?_⟩
    have only : ∀ other ∈ [line], (Message.ofLine other).method? ≠ some "info" := by
      intro other same
      obtain rfl := List.mem_singleton.mp same
      exact apart other member
    rw [navigator.serve_of_texts load single, Visit.map,
      result_answerAll_eq_alone only (Cache.faithful_start load), filterMap_cons_eq_append,
      List.filterMap_nil, List.append_nil]
  response := by
    intro shift worked task member graph? response? stands
    exact Shift.response_eq_alone store (Cache.Run.stocked_of_start .dropIdle draws) apart worked
      member stands
  responses := by
    intro shift worked finished
    exact Shift.sent_perm_alone store (Cache.Run.stocked_of_start .dropIdle draws) apart worked
      finished
  completed := by
    intro shift worked
    have reachable := Cache.Run.reachable_of_start .dropIdle steps
    exact ((Shift.sound_start reachable navigator lines).steps worked).exists_finished
  reordered := by
    intro others otherDraws permuted same shift other worked finished otherWorked otherFinished
    have own := Shift.sent_perm_alone store (Cache.Run.stocked_of_start .dropIdle draws) apart
      worked finished
    have theirs := Shift.sent_perm_alone store
      (Cache.Run.stocked_of_start .dropIdle otherDraws)
      (fun line member => apart line (same.mem_iff.mp member)) otherWorked otherFinished
    exact theirs.trans ((same.filterMap _).trans own.symm)
  inOrder := by
    intro idle
    have stocked := Cache.Run.stocked_of_start .dropIdle draws
    rw [navigator.serve_of_texts load read, Visit.map,
      result_answerAll_eq_alone apart (stocked.faithful idle)]

/-- Two clicks in one project, while somebody else loads its graph, and a third in another project
that has none. -/
theorem hidesOrder_clicks :
    let load := Loader.ofDocuments [("App", .object [])]
    let lines := ["[\"2.0\",1,\"resolve\",[\"App/project/src/a.js\",1,\"f\"]]",
      "[\"2.0\",2,\"resolve\",[\"App/project/src/b.js\",4,\"g\"]]",
      "[\"2.0\",3,\"resolve\",[\"Gone/project/src/a.js\",1,\"f\"]]"]
    let bytes := Text.Utf8.bytes ("\n".intercalate lines)
    let navigator : Navigator := { workspace := ⟨⟨""⟩⟩ }
    (streamLines bytes).mapM Text.Utf8.text = .ok lines ∧
      (∀ line ∈ lines, (Message.ofLine line).method? ≠ some "info") ∧
      lines.map (fun line => (Message.ofLine line).project? navigator) =
        [some "App", some "App", some "Gone"] ∧
      navigator.HidesOrder load
        (Cache.Run.start.steps .dropIdle [.call "a" "App" ⟨load "App", 1⟩]).cache bytes lines := by
  intro load lines bytes navigator
  have read : (streamLines bytes).mapM Text.Utf8.text = .ok lines := by decide +kernel
  have apart : ∀ line ∈ lines, (Message.ofLine line).method? ≠ some "info" := by decide +kernel
  refine ⟨read, apart, by decide +kernel, ?_⟩
  refine hidesOrder navigator (.documents [("App", .object [])]) ?_ read apart
  intro step member
  obtain rfl := List.mem_singleton.mp member
  rfl

end Navigator

end CallAtlas
