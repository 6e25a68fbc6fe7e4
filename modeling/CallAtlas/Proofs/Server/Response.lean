import CallAtlas.Proofs.Json.Sorted
import CallAtlas.Proofs.Server.Request
import CallAtlas.Server.Method

/-!
# Responses to requests

What the response to a request says, as a value: the version, the id of the request, and either a
result or an error, whose code tells an unknown method from wrong parameters and both from a failure
of the work itself.
-/

namespace CallAtlas

namespace Errand

/-- The methods of the server. -/
def methods : List String := ["resolve", "openCaller", "info", "ping"]

/-- The methods that need parameters. -/
def methodsWithParams : List String := ["resolve", "openCaller", "info"]

/-- Whether parameters are of the type that a method needs. -/
def fits (method : String) (params : Json) : Bool :=
  match method with
  | "resolve" => (Click.record.decode params).isOk
  | "openCaller" => (RowClick.record.decode params).isOk
  | "info" => (projectRecord.decode params).isOk
  | _ => true

/-- Whether a method needs parameters, and those given are missing or of another type. -/
def lacksParams (method : String) (params : Option Json) : Prop :=
  method ∈ methodsWithParams ∧ ∀ given, params = some given → fits method given = false

/-- What a method and its parameters are read as. -/
inductive Decoded (method : String) (params : Option Json) : Except RequestFault Errand → Prop where
  | unknown (absent : method ∉ methods) : Decoded method params (.error (.unknownMethod method))
  | missing (lacks : lacksParams method params) : Decoded method params (.error .missingParams)
  | wrong (lacks : lacksParams method params) (reason : Mismatch) :
    Decoded method params (.error (.wrongParams reason))
  | found (errand : Errand) (known : method ∈ methods) (complete : ¬ lacksParams method params) :
    Decoded method params (.ok errand)

/-- A method that needs parameters finds them missing, wrong, or right. -/
theorem decoded_params {α : Type} {method : String} {decode : Decoder α}
    (needs : method ∈ methodsWithParams)
    (typed : ∀ given, fits method given = (decode given).isOk) (make : α → Errand)
    (params : Option Json) : Decoded method params ((decodeParams decode params).map make) := by
  have known : method ∈ methods := List.mem_append_left ["ping"] needs
  cases params with
  | none => exact .missing ⟨needs, nofun⟩
  | some given =>
    unfold decodeParams
    dsimp only
    cases decoded : decode given with
    | error reason =>
      refine .wrong ⟨needs, ?_⟩ reason
      intro other same
      obtain rfl := Option.some.inj same
      rw [typed, decoded]
      rfl
    | ok a =>
      refine .found (make a) known ?_
      rintro ⟨-, refused⟩
      have typedHere := typed given
      rw [refused given rfl, decoded] at typedHere
      cases typedHere

theorem decoded_ofMethod? (method : String) (params : Option Json) :
    Decoded method params (ofMethod? method params) := by
  unfold ofMethod?
  split
  · exact decoded_params (by decide) (fun _ => rfl) resolve params
  · exact decoded_params (by decide) (fun _ => rfl) openCaller params
  · exact decoded_params (by decide) (fun _ => rfl) info params
  · refine .found ping (by decide) ?_
    rintro ⟨needs, -⟩
    exact absurd needs (by decide)
  · rename_i notResolve notOpenCaller notInfo notPing
    refine .unknown ?_
    simp only [methods, List.mem_cons, List.not_mem_nil, or_false, not_or]
    exact ⟨notResolve, notOpenCaller, notInfo, notPing⟩

end Errand

namespace Response

/-- What stands under a key of a response. -/
def member? (response : Response) (key : String) : Option Json :=
  response.toJson.member? key

/-- What stands under a key of the error of a response. -/
def errorMember? (response : Response) (key : String) : Option Json :=
  (response.member? "error").bind (Json.member? key)

/-- The code of the error of a response. -/
def code? (response : Response) : Option Json :=
  response.errorMember? "code"

/-- Whether the response tells that the work may succeed later. -/
def retryable? (response : Response) : Option Json :=
  (response.errorMember? "data").bind (Json.member? "retryable")

/-- A response answers a request under its id, and tells what became of the request: the work may
have failed, if it was done at all. -/
structure Answers (response : Response) (request : Request) (id : Json)
    (failure? : Option Failure) : Prop where
  version : response.member? "jsonrpc" = some (.string "2.0")
  id : response.member? "id" = some id
  /-- There is a result or an error, and not both. -/
  either : (response.member? "result").isSome ↔ response.member? "error" = none
  unknownMethod : response.code? = some (.int (-32601)) ↔ request.method ∉ Errand.methods
  wrongParams : response.code? = some (.int (-32602)) ↔
    Errand.lacksParams request.method request.params
  failed : response.code? = some (.int (-32000)) ↔ failure?.isSome
  retryable : ∀ failure, failure? = some failure →
    response.retryable? = some (.boolean failure.isRetryable)
  /-- There are no other errors. -/
  coded : response.member? "error" ≠ none →
    response.code? ∈ [some (.int (-32601)), some (.int (-32602)), some (.int (-32000))]

/-- A response that tells that a line is no request. -/
structure Refuses (response : Response) : Prop where
  version : response.member? "jsonrpc" = some (.string "2.0")
  id : response.member? "id" = some .null
  code : response.code? = some (.int (-32700))
  noResult : response.member? "result" = none

theorem refuses_unreadable (error : Json.ReadError) : (unreadable error).Refuses where
  version := rfl
  id := rfl
  code := rfl
  noResult := rfl

section Replies

variable {id : Json}

theorem member?_reply_version (id : Json) (result : Except RequestFault Json) :
    (reply id result).member? "jsonrpc" = some (.string "2.0") := by
  cases result <;> exact Json.member?_canonical "jsonrpc" _

theorem member?_reply_id (isId : Request.IsId id) (result : Except RequestFault Json) :
    (reply id result).member? "id" = some id := by
  have own : some id.canonical = some id := congrArg some isId.canonical.canonical_eq
  cases result <;> exact (Json.member?_canonical "id" _).trans own

theorem member?_reply_ok (id result : Json) :
    (reply id (.ok result)).member? "result" = some result.canonical ∧
      (reply id (.ok result)).member? "error" = none :=
  ⟨Json.member?_canonical "result" _, Json.member?_canonical "error" _⟩

theorem member?_reply_error (id : Json) (fault : RequestFault) :
    (reply id (.error fault)).member? "result" = none ∧
      (reply id (.error fault)).member? "error" = some fault.toJson.canonical :=
  ⟨Json.member?_canonical "result" _, Json.member?_canonical "error" _⟩

theorem errorMember?_reply (id : Json) (fault : RequestFault) (key : String) :
    (reply id (.error fault)).errorMember? key =
      (([("code", Json.int fault.code), ("message", Json.string fault.message)] ++
        fault.details).reverse.lookup key).map Json.canonical := by
  rw [errorMember?, (member?_reply_error id fault).2]
  exact Json.member?_canonical key _

theorem code?_reply (id : Json) (fault : RequestFault) :
    (reply id (.error fault)).code? = some (.int fault.code) := by
  rw [code?, errorMember?_reply]
  cases fault <;> rfl

theorem retryable?_reply (id : Json) (failure : Failure) :
    (reply id (.error (.failed failure))).retryable? = some (.boolean failure.isRetryable) := by
  rw [retryable?, errorMember?_reply]
  exact Json.member?_canonical "retryable" _

theorem code?_reply_ok (id result : Json) : (reply id (.ok result)).code? = none := by
  rw [code?, errorMember?, (member?_reply_ok id result).2]
  rfl

variable {request : Request} (isId : Request.IsId id)

include isId

/-- A request whose errand succeeds. -/
theorem answers_ok {errand : Errand} {result : Json}
    (decoded : Errand.Decoded request.method request.params (.ok errand)) :
    (reply id (.ok result)).Answers request id none := by
  obtain ⟨present, absent⟩ := member?_reply_ok id result
  have silent := code?_reply_ok id result
  cases decoded with
  | found errand known complete =>
    refine ⟨member?_reply_version id _, member?_reply_id isId _, ?_, ?_, ?_, ?_, nofun, ?_⟩
    · rw [present, absent]
      exact iff_of_true rfl rfl
    · rw [silent]
      exact iff_of_false nofun fun unknown => unknown known
    · rw [silent]
      exact iff_of_false nofun complete
    · rw [silent]
      exact iff_of_false nofun nofun
    · exact fun error => absurd absent error

/-- The error codes tell what is wrong with a request. -/
theorem answers_error {fault : RequestFault} {failure? : Option Failure}
    (unknown : fault.code = -32601 ↔ request.method ∉ Errand.methods)
    (lacks : fault.code = -32602 ↔ Errand.lacksParams request.method request.params)
    (failed : fault.code = -32000 ↔ failure?.isSome)
    (same : ∀ failure, failure? = some failure → fault = .failed failure) :
    (reply id (.error fault)).Answers request id failure? := by
  obtain ⟨absent, present⟩ := member?_reply_error id fault
  have code := code?_reply id fault
  have told (n : Int) : (reply id (.error fault)).code? = some (.int n) ↔ fault.code = n := by
    rw [code]
    constructor
    · intro equal
      injection equal with equal
      injection equal with equal
      injection equal
    · rintro rfl
      rfl
  refine ⟨member?_reply_version id _, member?_reply_id isId _, ?_, (told _).trans unknown,
    (told _).trans lacks, (told _).trans failed, ?_, ?_⟩
  · rw [absent, present]
    exact iff_of_false nofun nofun
  · intro failure known
    rw [same failure known]
    exact retryable?_reply id failure
  · intro _
    rw [code]
    cases fault <;> simp [RequestFault.code]

/-- A request that is not understood. -/
theorem answers_fault {fault : RequestFault}
    (decoded : Errand.Decoded request.method request.params (.error fault)) :
    (reply id (.error fault)).Answers request id none := by
  cases decoded with
  | unknown absent =>
    have notNeeded : ¬ Errand.lacksParams request.method request.params := fun lacks =>
      absent (List.mem_append_left ["ping"] lacks.1)
    exact answers_error isId (iff_of_true rfl absent) (iff_of_false nofun notNeeded)
      (iff_of_false nofun nofun) nofun
  | missing lacks | wrong lacks =>
    have known : ¬ request.method ∉ Errand.methods := fun absent =>
      absent (List.mem_append_left ["ping"] lacks.1)
    exact answers_error isId (iff_of_false nofun known) (iff_of_true rfl lacks)
      (iff_of_false nofun nofun) nofun

/-- A request whose errand fails. -/
theorem answers_failed {errand : Errand} {failure : Failure}
    (decoded : Errand.Decoded request.method request.params (.ok errand)) :
    (reply id (.error (.failed failure))).Answers request id (some failure) := by
  cases decoded with
  | found errand known complete =>
    refine answers_error isId (iff_of_false nofun fun absent => absent known)
      (iff_of_false nofun complete) (iff_of_true rfl rfl) ?_
    intro other same
    exact congrArg RequestFault.failed (Option.some.inj same)

end Replies

end Response

end CallAtlas
