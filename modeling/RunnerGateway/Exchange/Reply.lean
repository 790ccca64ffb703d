import RunnerGateway.Json.Reader
import RunnerGateway.Exchange.Call

/-!
# Replies of backends

What the gateway makes of the outcome of a call: the JSON value of a reply, the error that a backend
tells, or the error that stands for a reply which cannot be understood.
-/

namespace RunnerGateway
namespace Exchange

open Http

/-- The text for a backend that could not be reached or understood. -/
def connectionError : String := "Server Connection Error"

/-- The text for a body that is no JSON or breaks off. -/
def decodingError : String := "error decoding response body"

/-- The error that a JSON body tells: a text as it is, and anything else but `null` as JSON. -/
def toldError? (v : Json) : Option String :=
  match v.field? "error" with
  | none => none
  | some .null => none
  | some (.str message) => some message
  | some other => some other.render

namespace Reply

/-- The backend did what was asked. -/
def isSuccess (r : Reply) : Bool :=
  200 ≤ r.status && r.status < 300

/-- The JSON value of a body that came to its end. -/
def json? (r : Reply) : Option Json :=
  if r.body.complete then (Json.parseBytes r.body.bytes).toOption else none

/-- The JSON value of the body, where one is expected. -/
def json (r : Reply) : Except GatewayError Json :=
  match r.json? with
  | some v => .ok v
  | none => .error (.http decodingError)

/-- The error that stands for a reply to a proxied call: what the backend tells, with its status. -/
def error (r : Reply) : GatewayError :=
  match r.json? with
  | none => .backend r.status connectionError
  | some v =>
    .backend r.status
      ((toldError? v).getD ("Docker Model Runner: HTTP " ++ Text.numeral r.status))

/-- The error that stands for a reply to a request for a backend's own lists. -/
def listingError (r : Reply) : GatewayError :=
  match r.json?.bind toldError? with
  | some told => .backend r.status ("Docker Model Runner: " ++ told)
  | none => .backend r.status connectionError

/-- The text for a reply to an attempt to reach a backend. -/
def trialError (r : Reply) : String :=
  match r.json?.bind toldError? with
  | some told => "External Error: " ++ told
  | none => "HTTP Error: " ++ Text.numeral r.status

end Reply

/-- The error that stands for a call without a reply. -/
def CallFault.error (fault : CallFault) : GatewayError :=
  if fault.isLate then .timeout fault.message else .http fault.message

/-- The reply to a proxied call, if it tells success. -/
def accepted : Outcome → Except GatewayError Reply
  | .error fault => .error fault.error
  | .ok reply => if reply.isSuccess then .ok reply else .error reply.error

/-- The JSON value of a successful reply, if there is one. -/
def value? : Outcome → Option Json
  | .error _ => none
  | .ok reply => if reply.isSuccess then reply.json? else none

/-- The JSON value of the reply to a request for a backend's own lists. -/
def listing : Outcome → Except GatewayError Json
  | .error _ => .error (.backend 500 connectionError)
  | .ok reply => if reply.isSuccess then reply.json else .error reply.listingError

/-- The JSON value of the reply to an attempt to reach a backend; only the status 200 will do. -/
def trial : Outcome → Except GatewayError Json
  | .error _ => .error (.backend 500 connectionError)
  | .ok reply =>
    if reply.status = 200 then
      match reply.json? with
      | some v => .ok v
      | none => .error (.backend 500 ("Unexpected error: " ++ decodingError))
    else .error (.backend 500 reply.trialError)

/-- The headers that belong to a single connection. -/
def connectionHeaders : List String :=
  ["connection", "keep-alive", "proxy-connection", "transfer-encoding", "upgrade", "te",
    "trailer", "content-length"]

/-- The headers of a reply that a client gets; `mediaType` replaces the media type if it is
given. -/
def passedHeaders (mediaType : Option String) (headers : Headers) : Headers :=
  let kept := headers.filter fun h => !connectionHeaders.contains h.name
  match mediaType with
  | none => kept
  | some mediaType => Headers.set kept contentType mediaType.toUTF8.toList

/-- The answer that passes a reply on, body and all. -/
def Reply.passOn (r : Reply) (mediaType : Option String) : Response where
  status := r.status
  headers := passedHeaders mediaType r.headers
  body := r.body

end Exchange
end RunnerGateway
