import RunnerGateway.Http.MediaType
import RunnerGateway.Http.Message
import RunnerGateway.Json.Reader

/-!
# JSON bodies of requests

The body of a request counts as JSON only if its media type says so.  It must not be longer than
two mebibytes, and it must be one JSON value.
-/

namespace RunnerGateway
namespace Http

/-- The length in bytes up to which a body is read. -/
def maxBody : Nat := 2 * 1024 * 1024

/-- Why a body is not acceptable as JSON. -/
inductive BodyFault
  | wrongType
  | tooLong
  | malformed (path : List Json.Step) (message : String)
  deriving DecidableEq, Repr

/-- What is wrong with the body, in words; the part of the value at fault is named if there is
one. -/
def BodyFault.message : BodyFault → String
  | .wrongType => "Expected request with `Content-Type: application/json`"
  | .tooLong => "Failed to buffer the request body: length limit exceeded"
  | .malformed path message =>
    "Failed to parse the request body as JSON: " ++
      (if path = [] then "" else Json.pathText path ++ ": ") ++ message

namespace Request

/-- The media type of the request announces JSON. -/
def announcesJson (r : Request) : Bool :=
  match (Headers.text? r.headers contentType).bind MediaType.parse? with
  | some mediaType => mediaType.isJson
  | none => false

/-- The JSON value of the body. -/
def json (r : Request) : Except BodyFault Json :=
  if !r.announcesJson then .error .wrongType
  else if maxBody < r.body.length then .error .tooLong
  else (Json.parseFault r.body).mapError fun f => .malformed f.path (f.message r.body)

end Request
end Http
end RunnerGateway
