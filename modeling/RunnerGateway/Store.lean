import RunnerGateway.Error
import RunnerGateway.Json.Printer
import RunnerGateway.Runner.Config

/-!
# Stored settings

A store keeps texts under keys beyond the life of the gateway.  One key holds the configuration of
the runners, as JSON text.  A closed store keeps what it holds but answers nothing.
-/

namespace RunnerGateway

/-- The stored texts, and whether they can be reached. -/
structure Store where
  settings : Dict String := []
  isOpen : Bool := true
  deriving DecidableEq, Repr

namespace Store

/-- The key of the configuration of the runners. -/
def runnersKey : String := "docker_model_runner"

/-- The error of an attempt on a closed store. -/
def closed (attempt : String) : GatewayError :=
  .database (attempt ++ ": attempted to acquire a connection on a closed pool")

/-- The text under a key. -/
def get? (s : Store) (key : String) : Except GatewayError (Option String) :=
  if s.isOpen then .ok (Dict.get? s.settings key) else .error (closed "Failed to get setting")

/-- The store with a text under a key. -/
def set (s : Store) (key value : String) : Except GatewayError Store :=
  if s.isOpen then .ok { s with settings := Dict.insert s.settings key value }
  else .error (closed "Failed to set setting")

/-- The store after its end. -/
def close (s : Store) : Store :=
  { s with isOpen := false }

/-- The store at a new beginning, with all that it held. -/
def reopen (s : Store) : Store :=
  { s with isOpen := true }

/-- The stored configuration. -/
def runners? (s : Store) : Except GatewayError (Option RunnerConfig) := do
  match ← s.get? runnersKey with
  | none => return none
  | some text => return some (← (RunnerConfig.read text).mapError .serialization)

/-- The store with a configuration. -/
def setRunners (s : Store) (c : RunnerConfig) : Except GatewayError Store :=
  s.set runnersKey c.toJson.render

end Store
end RunnerGateway
