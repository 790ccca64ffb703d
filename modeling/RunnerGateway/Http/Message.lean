import RunnerGateway.Error
import RunnerGateway.Http.Header
import RunnerGateway.Json.Printer

/-!
# Requests to the gateway and its answers

The path of a request is kept as it was sent, with its percent escapes.  The body of an answer may
break off before its end.
-/

namespace RunnerGateway
namespace Http

/-- The bytes of a body, and whether it came to its end. -/
structure Body where
  bytes : List UInt8 := []
  complete : Bool := true
  deriving DecidableEq, Repr

/-- The body of a JSON value. -/
def Body.ofJson (v : Json) : Body where
  bytes := v.render.toUTF8.toList

/-- A request of a client. -/
structure Request where
  method : String
  path : String
  headers : Headers := []
  body : List UInt8 := []
  deriving DecidableEq, Repr

/-- An answer to a client. -/
structure Response where
  status : Nat
  headers : Headers := []
  body : Body := {}
  deriving DecidableEq, Repr

/-- The name of the header for the media type. -/
def contentType : String := "content-type"

/-- The media type of JSON. -/
def jsonType : String := "application/json"

namespace Response

/-- The answer with a JSON value. -/
def ofJson (status : Nat) (v : Json) : Response where
  status := status
  headers := [.ofText contentType jsonType]
  body := .ofJson v

/-- The answer that tells an error. -/
def ofError (e : GatewayError) : Response :=
  ofJson e.responseStatus e.responseBody

/-- The answer with one more header. -/
def withHeader (r : Response) (name value : String) : Response :=
  { r with headers := r.headers ++ [.ofText name value] }

/-- The answer without its body. -/
def withoutBody (r : Response) : Response :=
  { r with body := {} }

end Response
end Http
end RunnerGateway
