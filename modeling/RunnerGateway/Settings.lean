import RunnerGateway.Access.Keys
import RunnerGateway.Environment
import RunnerGateway.Runner.Config

/-!
# Settings from the environment

What the operator decides before the gateway starts: the first configuration of the runners, how
long to wait for them, where settings are stored, the keys, and what is logged where.
-/

namespace RunnerGateway
namespace Settings

/-! ## The runners -/

/-- The base URL of a runner on the same machine. -/
def localUrl : String := "http://localhost:12434"

/-- The base URL of the runner as seen from within a container. -/
def containerUrl : String := "http://model-runner.docker.internal"

/-- The URL without the path `/api` at its end. -/
def withoutApiPath (url : String) : String :=
  match Text.after? "/api".toList.reverse url.toList.reverse with
  | some start => String.ofList start.reverse
  | none => url

/-- The base URL by default. -/
def defaultUrl (env : Environment) : String :=
  if env.switch "USE_DOCKER_MODEL_RUNNER_DOCKER" false then localUrl else containerUrl

/-- The variable for a single base URL, if it has one. -/
def singleUrl? (env : Environment) : Noted (Option String) := do
  let value ← env.renamed? "DOCKER_MODEL_RUNNER_BASE_URL" "DOCKER_MODEL_RUNNER_API_BASE_URL"
  return ((value.map normalizeBaseUrl).filter fun url => url ≠ "").map withoutApiPath

/-- The base URLs: a list that is not blank, or else a single one, or else the default. -/
def baseUrls (env : Environment) : Noted (List String) :=
  match (env.text? "DOCKER_MODEL_RUNNER_BASE_URLS").filter fun list => Text.trim list ≠ "" with
  | some list => pure (splitBaseUrls list)
  | none => do
    match ← singleUrl? env with
    | some url => return [url]
    | none => return [defaultUrl env]

/-- The configuration to begin with. -/
def runners (env : Environment) : Noted RunnerConfig := do
  let urls ← baseUrls env
  return RunnerConfig.ofUrls (env.switch "ENABLE_DOCKER_MODEL_RUNNER_API" true) urls

/-! ## Waiting -/

/-- How many seconds to wait for a runner, and how long a catalogue stays fresh. -/
structure Timeouts where
  request : Nat := 300
  listing : Nat := 10
  freshness : Nat := 1
  deriving DecidableEq, Repr

/-- The seconds that a text denotes. -/
def seconds? (text : String) : Option Nat :=
  (Text.readWord text).toOption

/-- The timeouts of the environment; a text that is no number counts as unset. -/
def timeouts (env : Environment) : Noted Timeouts := do
  let request ←
    env.renamedAs "DMR_GATEWAY_CLIENT_TIMEOUT_SECS" "AIOHTTP_CLIENT_TIMEOUT" seconds? 300
  let listing ←
    env.renamedAs "DMR_GATEWAY_MODEL_LIST_TIMEOUT_SECS" "AIOHTTP_CLIENT_TIMEOUT_MODEL_LIST"
      seconds? 10
  let freshness ←
    env.renamedAs "DMR_GATEWAY_MODELS_CACHE_TTL_SECS" "MODELS_CACHE_TTL" seconds? 1
  return { request, listing, freshness }

/-! ## Storage, access and logging -/

/-- The URL of the database: the one given, or else a file below the home directory. -/
def databaseUrl (env : Environment) : Noted String := do
  match ← env.renamed? "DMR_GATEWAY_DATABASE_URL" "DATABASE_URL" with
  | some url => return url
  | none =>
    let home := ((env.text? "HOME").or (env.text? "USERPROFILE")).getD "."
    return "sqlite:" ++ home ++ "/.dmr-gateway/gateway.db"

/-- Keys are not looked at. -/
def accessDisabled (env : Environment) : Noted Bool :=
  env.renamedSwitch "DMR_GATEWAY_AUTH_DISABLED" "AUTH_DISABLED"

/-- The keys; an empty one counts as unset. -/
def access (env : Environment) : Noted Access.Settings := do
  let disabled ← accessDisabled env
  return {
    adminKey := env.nonEmpty? "DMR_GATEWAY_ADMIN_API_KEY"
    userKey := env.nonEmpty? "DMR_GATEWAY_API_KEY"
    disabled := disabled }

/-- Headers about the user are passed on to the runners. -/
def forwardsUser (env : Environment) : Noted Bool :=
  env.renamedSwitch "DMR_GATEWAY_FORWARD_USER_INFO_HEADERS" "ENABLE_FORWARD_USER_INFO_HEADERS"

/-- Which messages are logged, as a filter of levels. -/
def logFilter (env : Environment) : Noted String :=
  match env.nonEmpty? "RUST_LOG" with
  | some filter => pure filter
  | none => env.renamedAs "DMR_GATEWAY_LOG_LEVEL" "LOG_LEVEL" some "info"

/-- The directory for log files, if there shall be any. -/
def logDirectory? (env : Environment) : Option String :=
  env.nonEmpty? "DMR_GATEWAY_LOG_DIR"

end Settings

/-- All that holds for a running gateway. -/
structure GatewaySettings where
  timeouts : Settings.Timeouts := {}
  access : Access.Settings := {}
  forwardsUser : Bool := false

/-- The settings of the environment. -/
def GatewaySettings.ofEnvironment (env : Environment) : Noted GatewaySettings := do
  let timeouts ← Settings.timeouts env
  let access ← Settings.access env
  let forwardsUser ← Settings.forwardsUser env
  return { timeouts, access, forwardsUser }

end RunnerGateway
