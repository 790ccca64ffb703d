import RunnerGateway.Gateway.State
import RunnerGateway.Store.Opening

/-!
# Starting the gateway

The start reads the settings, opens the database, takes the stored configuration or stores the first
one, and at last begins to listen.  Each step may fail, and what the earlier ones did stays done.
-/

namespace RunnerGateway
namespace Gateway

/-- Why nobody can listen at an address. -/
inductive ListenFault
  | noPort
  | badPort
  | unknownHost
  deriving DecidableEq, Repr

/-- The fault in words. -/
def ListenFault.message : ListenFault → String
  | .noPort => "invalid socket address"
  | .badPort => "invalid port value"
  | .unknownHost => "failed to lookup address information: Name or service not known"

/-- A host and a port to listen at. -/
structure ListenAddress where
  host : String
  port : UInt16
  deriving DecidableEq, Repr

namespace ListenAddress

/-- A host without the brackets that may stand around one with colons. -/
def unbracketed (host : List Char) : List Char :=
  match host with
  | '[' :: rest =>
    if rest.getLast? = some ']' ∧ rest.contains ':' then rest.dropLast else host
  | _ => host

/-- The address of a text, in which the last colon stands before the port. -/
def parse (text : String) : Except ListenFault ListenAddress :=
  let back := text.toList.reverse
  match back.dropWhile fun c => c ≠ ':' with
  | [] => .error .noPort
  | _ :: host =>
    match Text.readNat 65535 (back.takeWhile fun c => c ≠ ':').reverse with
    | .ok port =>
      .ok { host := String.ofList (unbracketed host.reverse), port := UInt16.ofNat port }
    | .error _ => .error .badPort

end ListenAddress

/-- Begins to listen at an address; `isOwn` tells the hosts of the machine. -/
def listen (isOwn : String → Bool) (address : String) : Except GatewayError ListenAddress :=
  let result : Except ListenFault ListenAddress :=
    match ListenAddress.parse address with
    | .error fault => .error fault
    | .ok a => if isOwn a.host then .ok a else .error .unknownHost
  result.mapError fun fault =>
    .internal ("Failed to bind to " ++ address ++ ": " ++ fault.message)

/-- A gateway that has been started. -/
structure Started where
  rules : Rules
  state : State
  session : Store.Session

/-- The disk after the start up to the moment of listening, and the gateway. -/
def prepare (env : Environment) (disk : Disk) : Disk × Except GatewayError Started :=
  match Store.openUrl disk (Settings.databaseUrl env).value with
  | (disk, .error e) => (disk, .error e)
  | (disk, .ok session) =>
    match State.load (Settings.runners env).value session.store with
    | .error e => (disk, .error e)
    | .ok state =>
      let session := { session with store := state.store.getD session.store }
      let rules := Rules.ofSettings (GatewaySettings.ofEnvironment env).value
      (session.save disk, .ok { rules, state, session })

/-- The disk after the start, and the gateway with the address that it listens at. -/
def start (env : Environment) (disk : Disk) (isOwn : String → Bool) (address : String) :
    Disk × Except GatewayError (Started × ListenAddress) :=
  match prepare env disk with
  | (disk, .error e) => (disk, .error e)
  | (disk, .ok started) =>
    (disk, (listen isOwn address).map fun address => (started, address))

end Gateway
end RunnerGateway
