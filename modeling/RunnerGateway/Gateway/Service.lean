import RunnerGateway.Gateway.Administration
import RunnerGateway.Gateway.Route

/-!
# Answering requests

A request goes through four gates before anything is done for it: its path must have a route, the
client must be admitted, the method must be one of the route's, and the position in the path, if it
has one, must be a number.
-/

namespace RunnerGateway
namespace Gateway

open Http

/-- Does what an endpoint is for. -/
def serve (rules : Rules) (r : Request) (idx : Option Nat) : Endpoint → Attempt Response
  | .status => return status
  | .version => version idx
  | .tags => tags rules r idx
  | .describe => describe rules r
  | .chat => chat rules r idx
  | .generate => generate rules r idx
  | .embed => embed rules r idx "/api/embed"
  | .embeddings => embed rules r idx "/api/embeddings"
  | .verify => tryConnection r
  | .config => showConfig
  | .configUpdate => changeConfig r
  | .loaded => loaded
  | .pull => pull rules r idx
  | .delete => delete rules r idx

/-- Does what a route is for. -/
def follow (rules : Rules) (r : Request) (route : Route) : Attempt Response := do
  let idx ← attempt route.index
  serve rules r idx route.endpoint

/-- The answer of an attempt. -/
def settled (a : Attempt Response) : Task Response := do
  match ← a.run with
  | .ok response => return response
  | .error e => return .ofError e

/-- The header that names the methods of an endpoint. -/
def allowing (e : Endpoint) (response : Response) : Response :=
  response.withHeader "allow" (",".intercalate e.methods)

/-- The answer to a request with a route. -/
def respondOn (rules : Rules) (r : Request) (route : Route) : Task Response := do
  let known := route.endpoint.methods.contains r.method
  match route.endpoint.audience.admit rules.keys r.headers with
  | .error e =>
    let refusal := Response.ofError e
    return if known then refusal else allowing route.endpoint refusal
  | .ok () =>
    if known then settled (follow rules r route)
    else return allowing route.endpoint { status := 405 }

/-- The answer to a request; who asks for the headers alone gets no body. -/
def respond (rules : Rules) (r : Request) : Task Response := do
  let response ←
    match Route.ofPath? r.path with
    | none => pure { status := 404 }
    | some route => respondOn rules r route
  return if r.method = "HEAD" then response.withoutBody else response

end Gateway
end RunnerGateway
