import RunnerGateway.Command
import RunnerGateway.Gateway.Startup

/-!
# The program

Reads the command line and the environment, and prints the address to listen at and the first
configuration of the runners, or what is wrong with the command line.
-/

namespace RunnerGateway

/-- The variables that the program reads. -/
def variableNames : List String :=
  ["DMR_GATEWAY_HOST", "DMR_GATEWAY_PORT", "DMR_GATEWAY_LOG_LEVEL", "LOG_LEVEL", "RUST_LOG",
    "DMR_GATEWAY_LOG_DIR", "DMR_GATEWAY_DATABASE_URL", "DATABASE_URL", "HOME", "USERPROFILE",
    "DMR_GATEWAY_ADMIN_API_KEY", "DMR_GATEWAY_API_KEY", "DMR_GATEWAY_AUTH_DISABLED",
    "AUTH_DISABLED", "DMR_GATEWAY_CLIENT_TIMEOUT_SECS", "AIOHTTP_CLIENT_TIMEOUT",
    "DMR_GATEWAY_MODEL_LIST_TIMEOUT_SECS", "AIOHTTP_CLIENT_TIMEOUT_MODEL_LIST",
    "DMR_GATEWAY_MODELS_CACHE_TTL_SECS", "MODELS_CACHE_TTL",
    "DMR_GATEWAY_FORWARD_USER_INFO_HEADERS", "ENABLE_FORWARD_USER_INFO_HEADERS",
    "ENABLE_DOCKER_MODEL_RUNNER_API", "DOCKER_MODEL_RUNNER_BASE_URLS",
    "DOCKER_MODEL_RUNNER_BASE_URL", "DOCKER_MODEL_RUNNER_API_BASE_URL",
    "USE_DOCKER_MODEL_RUNNER_DOCKER"]

/-- The variables of the process that are set. -/
def readEnvironment : IO Environment := do
  let values ← variableNames.mapM fun name => do
    return (← IO.getEnv name).map fun value => (name, value.toUTF8.toList)
  return values.filterMap id

/-- Prints what stands in the way of a start, and gives the code to end with. -/
def reportFault (fault : Command.Fault) : IO UInt32 := do
  if fault.exitCode = 0 then IO.println fault.message else IO.eprintln fault.message
  return UInt32.ofNat fault.exitCode

end RunnerGateway

open RunnerGateway in
/-- Runs the program. -/
def main (args : List String) : IO UInt32 := do
  let env ← readEnvironment
  match (Command.read env args).bind (Command.serveArgs env) with
  | .error fault => reportFault fault
  | .ok address =>
    let runners := Settings.runners env
    let notes := runners.notes ++ (GatewaySettings.ofEnvironment env).notes
    for note in notes do
      IO.eprintln note.message
    IO.println address.address
    IO.println runners.value.toJson.render
    return 0
