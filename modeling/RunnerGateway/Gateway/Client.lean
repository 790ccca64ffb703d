import RunnerGateway.Gateway.Task
import RunnerGateway.Exchange.UserHeaders

/-!
# Calling a backend

The ways in which a task uses a single backend: to read a value, to try whether it can be reached,
and to pass a request on.
-/

namespace RunnerGateway
namespace Gateway

open Http Exchange

/-- A task that may fail. -/
abbrev Attempt := ExceptT GatewayError Task

/-- The attempt with a result that is already there. -/
def attempt (r : Except GatewayError α) : Attempt α :=
  ExceptT.mk (pure r)

/-- A call to read what stands at a URL. -/
def reading (url : String) (key : Option String) (headers : Headers) : Call where
  method := .get
  url := url
  key := key
  headers := headers

/-- The JSON value at a URL, if there is one. -/
def fetch? (url : String) (key : Option String) (headers : Headers) : Task (Option Json) := do
  return value? (← Task.call (reading url key headers))

/-- The JSON value at a URL. -/
def fetch (url : String) (key : Option String) (headers : Headers) : Attempt Json := do
  attempt (listing (← Task.call (reading url key headers)))

/-- The URL that tells the version of the backend at a base URL as a client wrote it. -/
def trialUrl (url : String) : String :=
  String.ofList (Text.dropEndWhile (fun c => c = '/') url.toList) ++ "/api/version"

/-- The version of the backend at a base URL. -/
def verify (url : String) (key : Option String) : Attempt Json := do
  attempt (trial (← Task.call (reading (trialUrl url) key [])))

/-- The successful reply to a call. -/
def send (c : Call) : Attempt Reply := do
  attempt (accepted (← Task.call c))

/-- A call that sends a value to a URL. -/
def sending (method : Method) (url : String) (payload : Json) (key : Option String)
    (headers : Headers) : Call where
  method := method
  url := url
  key := key
  headers := headers
  payload := some payload

/-- The JSON value that comes back for a value sent to a URL. -/
def postJson (url : String) (payload : Json) (key : Option String) (headers : Headers) :
    Attempt Json := do
  attempt (← send (sending .post url payload key headers)).json

/-- The answer that passes on what comes back for a value sent to a URL. -/
def postStream (url : String) (payload : Json) (key : Option String) (headers : Headers)
    (mediaType : Option String) : Attempt Response := do
  return (← send (sending .post url payload key headers)).passOn mediaType

/-- Sends a wish to delete something to a URL. -/
def sendDelete (url : String) (payload : Json) (key : Option String) (headers : Headers) :
    Attempt Unit := do
  let _ ← send (sending .delete url payload key headers)

end Gateway
end RunnerGateway
