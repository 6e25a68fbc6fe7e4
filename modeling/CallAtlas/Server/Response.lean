import CallAtlas.Failure
import CallAtlas.Json.Mismatch
import CallAtlas.Json.Printer
import CallAtlas.Json.ReadError

/-!
# Responses

What the server writes back, one line for each response: the result of a request
(`JsonRpcResponse`), the reason why there is none (`JsonRpcErrorResponse`), or the reason why a line
is no request at all.
-/

namespace CallAtlas

/-- Why a request has no result. -/
inductive RequestFault where
  /-- No method has that name. -/
  | unknownMethod (name : String)
  /-- The method needs parameters. -/
  | missingParams
  /-- The parameters are not those of the method. -/
  | wrongParams (reason : Mismatch)
  /-- The work itself failed. -/
  | failed (failure : Failure)
  deriving DecidableEq, Repr

namespace RequestFault

/-- The code of a fault (`METHOD_NOT_FOUND`, `INVALID_PARAMS`, `SERVER_ERROR`). -/
def code : RequestFault → Int
  | .unknownMethod _ => -32601
  | .missingParams | .wrongParams _ => -32602
  | .failed _ => -32000

def message : RequestFault → String
  | .unknownMethod name => "Method not found: " ++ name
  | .missingParams => "Missing params"
  | .wrongParams reason => "Invalid params: " ++ reason.message
  | .failed failure => failure.message

/-- What else a fault tells (`handler_error`): whether the work may succeed later. -/
def details : RequestFault → List (String × Json)
  | .failed failure =>
    [("data", .object [("retryable", .boolean failure.isRetryable)])]
  | _ => []

def toJson (fault : RequestFault) : Json :=
  .object ([("code", .int fault.code), ("message", .string fault.message)] ++ fault.details)

end RequestFault

/-- A response. -/
inductive Response where
  /-- A line is no request. -/
  | unreadable (error : Json.ReadError)
  /-- A request is answered under its id. -/
  | reply (id : Json) (result : Except RequestFault Json)

namespace Response

/-- The version that every response names. -/
def version : String × Json :=
  ("jsonrpc", .string "2.0")

/-- The code of a line that is no request (`PARSE_ERROR`). -/
def unreadableCode : Int := -32700

def toJson : Response → Json
  | .unreadable error =>
    .object
      [version, ("id", .null),
       ("error",
        .object
          [("code", .int unreadableCode),
           ("message", .string ("Parse error: " ++ error.message))])]
  | .reply id (.ok result) =>
    Json.canonical (.object [version, ("id", id), ("result", result)])
  | .reply id (.error fault) =>
    Json.canonical (.object [version, ("id", id), ("error", fault.toJson)])

/-- The line of a response, without its end (`to_line`). -/
def line (response : Response) : String :=
  response.toJson.compact

end Response

end CallAtlas
