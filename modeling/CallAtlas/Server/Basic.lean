import CallAtlas.Server.Method
import CallAtlas.Server.Request
import CallAtlas.Text.Utf8

/-!
# The server

A stream of requests, one a line, and the responses to them, as `serve_lines` gives them. A line
without a visible character is passed over, a line that is no request is answered with an error, and
so is every request with an id; requests without one are not carried out. Requests are carried out
here in the order of their lines, and a graph that one of them loads is there for those behind it.
That is one of the orders in which they may be carried out: each has a task of its own, and the
responses are sent as the tasks come to their end.

A stream that is not UTF-8 breaks at the first line that is not, and the server fails there. The
lines in front of it have been read by then, and the work on them goes on as in any other stream for
as long as the program lives: requests may have loaded graphs and been answered, or may never be.
Nothing becomes of the line itself and of those behind it.
-/

namespace CallAtlas

/-- What one line asks of the server. -/
inductive Message where
  /-- The line is blank. -/
  | blank
  /-- The line is no request. -/
  | unreadable (error : Json.ReadError)
  /-- A request without an id, or with null for one. -/
  | notification
  /-- A request with an id. -/
  | request (id : Json) (method : String) (params : Option Json)

/-- What a line asks, in the loop of `serve_lines`. -/
def Message.ofLine (line : String) : Message :=
  let line := Text.trim line
  if line.isEmpty then .blank
  else
    match Request.read line with
    | .error error => .unreadable error
    | .ok found =>
      match found.id with
      | none => .notification
      | some id => .request id found.method found.params

/-- The project whose graph a message needs. -/
def Message.project? (navigator : Navigator) : Message → Option String
  | .request _ method params =>
    (Errand.ofMethod? method params).toOption.bind (Errand.project? navigator)
  | _ => none

namespace Navigator

variable (navigator : Navigator) (load : Loader)

/-- The response to a request with an id (`handle_request`). -/
def respond (cache : Cache) (id : Json) (method : String) (params : Option Json) :
    Visit Response :=
  match Errand.ofMethod? method params with
  | .error fault => .idle cache (.reply id (.error fault))
  | .ok errand => (errand.run navigator load cache).map (.reply id)

/-- The response to a message, if it has one. -/
def answerMessage (cache : Cache) : Message → Visit (Option Response)
  | .blank | .notification => .idle cache none
  | .unreadable error => .idle cache (some (.unreadable error))
  | .request id method params => (navigator.respond load cache id method params).map some

/-- The responses to messages in their order. -/
def answerAll (cache : Cache) : List Message → Visit (List Response)
  | [] => .idle cache []
  | message :: rest =>
    let first := navigator.answerMessage load cache message
    let others := answerAll first.cache rest
    ⟨others.cache, first.fetched ++ others.fetched, first.result.toList ++ others.result⟩

end Navigator

/-- The lines of a stream of bytes (`next_line`), without their ends: a line feed, and one carriage
return just before it. -/
def streamLines : List UInt8 → List (List UInt8)
  | [] => []
  | b :: rest =>
    if b = 0x0A then [] :: streamLines rest
    else if b = 0x0D ∧ rest.head? = some 0x0A then streamLines rest
    else
      match streamLines rest with
      | [] => [[b]]
      | line :: lines => (b :: line) :: lines

/-- A stream of requests: the messages in front of the first line that is not UTF-8, and the
failure at that line. -/
structure RequestStream where
  messages : List Message := []
  failure? : Option Failure := none

namespace RequestStream

def ofLines : List (List UInt8) → RequestStream
  | [] => {}
  | line :: rest =>
    match Text.Utf8.text line with
    | .ok text =>
      let others := ofLines rest
      { others with messages := Message.ofLine text :: others.messages }
    | .error fault => { failure? := some (.input InputKind.invalidData fault.message) }

def ofBytes (bytes : List UInt8) : RequestStream :=
  ofLines (streamLines bytes)

end RequestStream

/-- What comes of a stream. -/
structure Service where
  /-- The responses in the order in which they were sent. -/
  sent : List Response
  /-- The failure that a server ends with, if it does not come to the end of the stream. -/
  failure? : Option Failure := none

/-- What comes of a stream of requests that are carried out in the order of their lines
(`serve_lines`). Where the stream breaks, all lines in front have been worked on. -/
def Navigator.serve (navigator : Navigator) (load : Loader) (cache : Cache)
    (bytes : List UInt8) : Visit Service :=
  let stream := RequestStream.ofBytes bytes
  (navigator.answerAll load cache stream.messages).map fun sent => ⟨sent, stream.failure?⟩

end CallAtlas
