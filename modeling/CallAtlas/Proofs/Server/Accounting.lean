import CallAtlas.Proofs.Server.Completion
import CallAtlas.Proofs.Server.Stream

/-!
# Every line is accounted for

In whatever order the work on the lines of a stream is done, each line gets the one response that it
should have, or none if it should have none, and there are no other responses. The only thing that
the order can change is what the cache returns for the graph that a request needs.
-/

namespace CallAtlas

/-- What a line is read as. -/
inductive Message.Reads (line : String) : Message → Prop where
  | blank (empty : Text.trim line = "") : Reads line .blank
  | unreadable (error : Json.ReadError) (visible : Text.trim line ≠ "")
      (unread : Request.read (Text.trim line) = .error error) : Reads line (.unreadable error)
  | notification (request : Request) (visible : Text.trim line ≠ "")
      (read : Request.read (Text.trim line) = .ok request) (nameless : request.id = none) :
    Reads line .notification
  | request (request : Request) (id : Json) (visible : Text.trim line ≠ "")
      (read : Request.read (Text.trim line) = .ok request) (named : request.id = some id) :
    Reads line (.request id request.method request.params)

theorem Message.reads_ofLine (line : String) : Reads line (ofLine line) := by
  unfold ofLine
  dsimp only
  split
  · rename_i empty
    exact .blank (String.isEmpty_iff.mp empty)
  · rename_i visible
    have visible : Text.trim line ≠ "" := fun none => visible (String.isEmpty_iff.mpr none)
    cases read : Request.read (Text.trim line) with
    | error error => exact .unreadable error visible read
    | ok request =>
      dsimp only
      cases named : request.id with
      | none => exact .notification request visible read named
      | some id => exact .request request id visible read named

/-- What should become of a line, by what the cache returned for it, if it was called. -/
inductive Accounted (navigator : Navigator) (line : String) :
    Option (Except Failure CallGraph) → Option Response → Prop where
  /-- A blank line is passed over. -/
  | blank (empty : Text.trim line = "") : Accounted navigator line none none
  /-- A line that is no request is refused. -/
  | unreadable (error : Json.ReadError) (response : Response) (visible : Text.trim line ≠ "")
      (unread : Request.read (Text.trim line) = .error error) (refuses : response.Refuses) :
    Accounted navigator line none (some response)
  /-- A request without an id, or with null for one, is not carried out. -/
  | notification (request : Request) (visible : Text.trim line ≠ "")
      (read : Request.read (Text.trim line) = .ok request) (nameless : request.id = none) :
    Accounted navigator line none none
  /-- A request with an id is answered. The cache is called for the graph that it needs. -/
  | answered (request : Request) (id : Json) (graph? : Option (Except Failure CallGraph))
      (response : Response) (visible : Text.trim line ≠ "")
      (read : Request.read (Text.trim line) = .ok request) (named : request.id = some id)
      (called : graph?.isSome = ((Message.ofLine line).project? navigator).isSome)
      (answers : response.Answers request id (request.failure? navigator graph?)) :
    Accounted navigator line graph? (some response)

/-- What the course of a line comes to is what should become of the line. -/
theorem accounted_of_yields {navigator : Navigator} {line : String}
    {graph? : Option (Except Failure CallGraph)} {response? : Option Response}
    (yields : ((Message.ofLine line).course navigator).Yields graph? response?) :
    Accounted navigator line graph? response? := by
  have called := yields.isSome_eq
  rw [Message.project?_course] at called
  have reads := Message.reads_ofLine line
  generalize own : Message.ofLine line = message at yields reads
  cases reads with
  | blank empty =>
    cases yields with
    | ready => exact .blank empty
  | unreadable error visible unread =>
    cases yields with
    | ready => exact .unreadable error _ visible unread (Response.refuses_unreadable error)
  | notification request visible read nameless =>
    cases yields with
    | ready => exact .notification request visible read nameless
  | request request id visible read named =>
    obtain ⟨response, rfl, answers⟩ :=
      Message.answers_of_yields (Request.isId_of_read read id named) yields
    exact .answered request id graph? response visible read named called answers

namespace Shift

/-- What can be said at any time of the work on some lines. -/
structure AccountsFor (navigator : Navigator) (supply : Supply) (lines : List String)
    (shift : Shift) : Prop where
  /-- There is a task for each line. -/
  lines : shift.tasks.map Task.line = lines
  /-- What is done is as it should be. -/
  done : ∀ task ∈ shift.tasks, ∀ graph? response?, task.handling = .done graph? response? →
    Accounted navigator task.line graph? response?
  /-- Blank lines and requests without an id are never worked on, so they never touch the cache. -/
  silent : ∀ task ∈ shift.tasks, (Message.ofLine task.line).isSilent = true →
    task.handling = .done none none ∧
      ∀ cache after handling, ¬ task.Turn navigator supply cache after handling
  /-- What was sent are the responses of the tasks that are done, once each, and nothing else. -/
  sent : shift.sent.Perm shift.responses
  /-- All that is not done can still be done. -/
  completed : ∃ after, Steps navigator supply shift after ∧ after.Finished

variable {navigator : Navigator} {supply : Supply} {lines : List String} {shift : Shift}

theorem Sound.silent (sound : shift.Sound navigator lines) {task : Task}
    (member : task ∈ shift.tasks) (silent : (Message.ofLine task.line).isSilent = true) :
    task.handling = .done none none := by
  have fits := sound.fits task member
  have course : task.course navigator = .ready none :=
    Message.course_of_isSilent navigator silent
  cases stands : task.handling with
  | due =>
    unfold Task.Fits at fits
    rw [stands, silent] at fits
    cases fits
  | waiting name =>
    obtain ⟨project, result, needs, -⟩ := fits.of_waiting stands
    rw [course] at needs
    cases needs
  | done graph? response? =>
    have yields := fits.of_done stands
    rw [course] at yields
    cases yields with
    | ready => rfl

theorem Sound.accountsFor (sound : shift.Sound navigator lines) :
    shift.AccountsFor navigator supply lines where
  lines := sound.lines
  done := by
    intro task member graph? response? stands
    exact accounted_of_yields ((sound.fits task member).of_done stands)
  silent := by
    intro task member silent
    have stands := sound.silent member silent
    refine ⟨stands, fun cache after handling turn => ?_⟩
    cases turn with
    | settles response? due =>
      rw [stands] at due
      cases due
    | asks project result course name step takes =>
      rw [stands] at takes
      cases takes
  sent := sound.sent
  completed := sound.exists_finished

end Shift

namespace Navigator

/-- How a server accounts for a stream of lines that are all UTF-8. -/
structure Accounts (navigator : Navigator) (supply : Supply) (cache : Cache)
    (bytes : List UInt8) (lines : List String) : Prop where
  /-- Whatever the order of work, whatever loaders yield and others do with the cache, every line is
  accounted for. -/
  always : ∀ shift, Shift.Steps navigator supply (.start cache lines) shift →
    shift.AccountsFor navigator supply lines
  /-- The stream is served to its end, and if nobody else uses the cache, what is sent are the
  responses of one such order. -/
  inOrder : ∀ load, cache.calls = [] → ∃ shift,
    Shift.Steps navigator (.ofLoader load) (.start cache lines) shift ∧ shift.Finished ∧
      shift.AccountsFor navigator (.ofLoader load) lines ∧
      (navigator.serve load cache bytes).result = ⟨shift.sent, none⟩ ∧
      (navigator.serve load cache bytes).cache = shift.cache
  /-- Blank lines and requests without an id leave the cache as it is. -/
  idle : ∀ load cache, (∀ line ∈ lines, (Message.ofLine line).isSilent = true) →
    navigator.serve load cache bytes = .idle cache ⟨[], none⟩

theorem answerAll_of_isSilent (navigator : Navigator) (load : Loader) (cache : Cache)
    {messages : List Message} (silent : ∀ message ∈ messages, message.isSilent = true) :
    navigator.answerAll load cache messages = .idle cache [] := by
  induction messages with
  | nil => rfl
  | cons message rest ih =>
    have first : navigator.answerMessage load cache message = .idle cache none := by
      rw [Message.answerMessage_eq_visit,
        Message.course_of_isSilent navigator (silent message List.mem_cons_self)]
      rfl
    rw [answerAll, first]
    dsimp only [Visit.idle]
    rw [ih fun other member => silent other (List.mem_cons_of_mem _ member)]
    rfl

/-- A server accounts for every stream of lines that are UTF-8, whatever happened to its cache
before. -/
theorem accounts (navigator : Navigator) (supply : Supply) (steps : List Cache.Step)
    {bytes : List UInt8} {lines : List String}
    (read : (streamLines bytes).mapM Text.Utf8.text = .ok lines) :
    navigator.Accounts supply (Cache.Run.start.steps .dropIdle steps).cache bytes lines where
  always := by
    intro shift worked
    have reachable := Cache.Run.reachable_of_start .dropIdle steps
    exact ((Shift.sound_start reachable navigator lines).steps worked).accountsFor
  inOrder := by
    intro load idle
    have reachable := Cache.Run.reachable_of_start .dropIdle steps
    obtain ⟨shift, worked, finished, cache, sent⟩ :=
      Shift.exists_finished_inOrder navigator load reachable idle lines
    have sound := (Shift.sound_start reachable navigator lines).steps worked
    refine ⟨shift, worked, finished, sound.accountsFor, ?_, ?_⟩
    · rw [navigator.serve_of_texts load read, sent]
      rfl
    · rw [navigator.serve_of_texts load read, cache]
      rfl
  idle := by
    intro load cache silent
    rw [navigator.serve_of_texts load read, navigator.answerAll_of_isSilent load cache]
    · rfl
    · intro message member
      obtain ⟨line, present, rfl⟩ := List.mem_map.mp member
      exact silent line present

/-- A blank line, a line that is no request, a click and a request without an id, while somebody
else loads the graph that the click needs. -/
theorem accounts_click_among_others :
    let lines := [" ", "x", "[\"2.0\",7,\"resolve\",[\"App/project/src/a.js\",1,\"f\"]]",
      "[\"2.0\",null,\"resolve\",[\"App/project/src/a.js\",1,\"f\"]]"]
    let bytes := Text.Utf8.bytes ("\n".intercalate lines)
    let navigator : Navigator := { workspace := ⟨⟨""⟩⟩ }
    (streamLines bytes).mapM Text.Utf8.text = .ok lines ∧
      lines.map (fun line => (Message.ofLine line).isSilent) = [true, false, false, true] ∧
      lines.map (fun line => (Message.ofLine line).project? navigator) =
        [none, none, some "App", none] ∧
      navigator.Accounts (.ofLoader (.ofDocuments []))
        (Cache.Run.start.steps .dropIdle [.call "a" "App" ⟨.ok (.object []), 1⟩]).cache
        bytes lines := by
  intro lines bytes navigator
  have read : (streamLines bytes).mapM Text.Utf8.text = .ok lines := by decide +kernel
  exact ⟨read, by decide +kernel, by decide +kernel,
    accounts navigator _ [.call "a" "App" ⟨.ok (.object []), 1⟩] read⟩

end Navigator

end CallAtlas
