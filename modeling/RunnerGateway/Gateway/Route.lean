import RunnerGateway.Access.Gate
import RunnerGateway.Text.Numeral
import RunnerGateway.Url.Percent

/-!
# Routes

The table of what the gateway offers: the paths, the method, whom it is for, and whether the path
may go on with the position of a backend.  Paths are compared as they are sent, without a look at
percent escapes; only the position is unescaped.
-/

namespace RunnerGateway
namespace Gateway

open Access

/-- What the gateway offers. -/
inductive Endpoint
  | status
  | version
  | tags
  | describe
  | chat
  | generate
  | embed
  | embeddings
  | verify
  | config
  | configUpdate
  | loaded
  | pull
  | delete
  deriving DecidableEq, Repr

namespace Endpoint

/-- All endpoints. -/
def all : List Endpoint :=
  [.status, .version, .tags, .describe, .chat, .generate, .embed, .embeddings, .verify, .config,
    .configUpdate, .loaded, .pull, .delete]

/-- The paths of an endpoint. -/
def paths : Endpoint → List String
  | .status => ["/", "/health"]
  | .version => ["/api/version"]
  | .tags => ["/api/tags"]
  | .describe => ["/api/show"]
  | .chat => ["/api/chat"]
  | .generate => ["/api/generate"]
  | .embed => ["/api/embed"]
  | .embeddings => ["/api/embeddings"]
  | .verify => ["/verify"]
  | .config => ["/config"]
  | .configUpdate => ["/config/update"]
  | .loaded => ["/api/ps"]
  | .pull => ["/api/pull"]
  | .delete => ["/api/delete"]

/-- The path may go on with the position of a backend. -/
def isIndexed : Endpoint → Bool
  | .version => true
  | .tags => true
  | .chat => true
  | .generate => true
  | .embed => true
  | .embeddings => true
  | .pull => true
  | .delete => true
  | _ => false

/-- Whom an endpoint is for. -/
def audience : Endpoint → Audience
  | .status => .everyone
  | .version => .everyone
  | .verify => .administrators
  | .config => .administrators
  | .configUpdate => .administrators
  | .loaded => .administrators
  | .pull => .administrators
  | .delete => .administrators
  | _ => .users

/-- The methods of an endpoint; who may get something may also ask for its headers alone. -/
def methods : Endpoint → List String
  | .status => ["GET", "HEAD"]
  | .version => ["GET", "HEAD"]
  | .tags => ["GET", "HEAD"]
  | .config => ["GET", "HEAD"]
  | .loaded => ["GET", "HEAD"]
  | .delete => ["DELETE"]
  | _ => ["POST"]

end Endpoint

/-- An endpoint, and the position of a backend as it stands in the path. -/
structure Route where
  endpoint : Endpoint
  position : Option (List Char) := none
  deriving DecidableEq, Repr

namespace Route

/-- The route that a path has to an endpoint. -/
def toEndpoint? (path : List Char) (e : Endpoint) : Option Route :=
  if e.paths.any fun p => p.toList = path then some ⟨e, none⟩
  else if e.isIndexed then
    (e.paths.findSome? fun p => Text.after? (p.toList ++ ['/']) path).bind fun position =>
      if position.isEmpty || position.contains '/' then none else some ⟨e, some position⟩
  else none

/-- The route of a path. -/
def ofPath? (path : String) : Option Route :=
  Endpoint.all.findSome? (toEndpoint? path.toList)

/-- The number that a position stands for. -/
def readPosition (position : List Char) : Except GatewayError Nat :=
  match String.fromUTF8?
      (Url.percentDecode (String.ofList position).toUTF8.toList).toByteArray with
  | none => .error (.validation "Invalid URL: Invalid UTF-8 in `idx`")
  | some text =>
    match Text.readWord text with
    | .ok idx => .ok idx
    | .error _ =>
      .error (.validation ("Invalid URL: Cannot parse `" ++ text ++ "` to a `u64`"))

/-- The position of a backend, if the route names one. -/
def index (r : Route) : Except GatewayError (Option Nat) :=
  match r.position with
  | none => .ok none
  | some position => (readPosition position).map some

end Route
end Gateway
end RunnerGateway
