import RunnerGateway.Json.Basic
import RunnerGateway.Text.Numeral

/-!
# Errors of the gateway

Everything that can go wrong while a request is answered, with the status and the text that the
client gets.  Errors of backends and of routing are passed on as they are; the details of stored
data, of the gateway itself and of keys are for its own log only.
-/

namespace RunnerGateway

/-- Why a request could not be answered as wished. -/
inductive GatewayError
  | config (text : String)
  | serialization (text : String)
  | validation (text : String)
  | modelNotFound (model : String)
  | backendNotFound (idx : Nat)
  | noBackendsAvailable (model : String)
  | runnerNotFound
  | backend (status : Nat) (text : String)
  | database (text : String)
  | http (text : String)
  | timeout (text : String)
  | internal (text : String)
  | authentication (text : String)
  | authorization (text : String)
  deriving DecidableEq, Repr

namespace GatewayError

/-- The whole text of the error, for the gateway's own log. -/
def message : GatewayError → String
  | .config text => "Configuration error: " ++ text
  | .serialization text => "Serialization error: " ++ text
  | .validation text => "Validation error: " ++ text
  | .modelNotFound model => "Model '" ++ model ++ "' was not found"
  | .backendNotFound idx => "Backend " ++ Text.numeral idx ++ " not found"
  | .noBackendsAvailable model => "No enabled backend serves model '" ++ model ++ "'"
  | .runnerNotFound => "Docker Model Runner not found"
  | .backend _ text => text
  | .database text => "Database error: " ++ text
  | .http text => "Docker Model Runner: " ++ text
  | .timeout text => "Timeout error: " ++ text
  | .internal text => "Internal error: " ++ text
  | .authentication text => "Authentication error: " ++ text
  | .authorization text => "Authorization error: " ++ text

/-- The text that a client gets. -/
def external : GatewayError → String
  | .validation text => text
  | .serialization text => text
  | .config _ => "Configuration error"
  | .database _ => "Database error"
  | .internal _ => "Internal server error"
  | .authentication _ => "Authentication failed"
  | .authorization _ => "Access denied"
  | e => e.message

/-- The status that stands for the error. -/
def status : GatewayError → Nat
  | .config _ => 500
  | .serialization _ => 400
  | .validation _ => 400
  | .modelNotFound _ => 400
  | .backendNotFound _ => 404
  | .noBackendsAvailable _ => 503
  | .runnerNotFound => 500
  | .backend status _ => status
  | .database _ => 500
  | .http _ => 500
  | .timeout _ => 504
  | .internal _ => 500
  | .authentication _ => 401
  | .authorization _ => 403

/-- The status of the answer: one that no answer can have becomes 500. -/
def responseStatus (e : GatewayError) : Nat :=
  if 100 ≤ e.status ∧ e.status ≤ 999 then e.status else 500

/-- The body of the answer. -/
def responseBody (e : GatewayError) : Json :=
  .obj [("error", .str e.external)]

end GatewayError
end RunnerGateway
