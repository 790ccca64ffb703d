import RunnerGateway.Form.Chat
import RunnerGateway.Form.Model
import RunnerGateway.Gateway.Balancer
import RunnerGateway.Gateway.State
import RunnerGateway.Http.JsonBody

/-!
# Inference

Chats, texts and embeddings are passed on to a backend with the model's name as the backend knows
it.  Chats and texts may come back piece by piece; a chat then is a stream of lines.
-/

namespace RunnerGateway
namespace Gateway

open Http Exchange

/-- The JSON value of the body of a request. -/
def bodyOf (r : Request) : Except GatewayError Json :=
  r.json.mapError fun fault => .validation fault.message

/-- The form in the body of a request. -/
def formOf (parse : Json → Except FormFault α) (r : Request) : Except GatewayError α := do
  (parse (← bodyOf r)).mapError fun fault => .validation fault.message

/-- The headers of a request that are passed on. -/
def passedOn (rules : Rules) (r : Request) (chat : Option String) : Headers :=
  forwarded rules.forwardsUser r.headers chat

/-- The media type of a chat that comes line by line. -/
def linesType : String := "application/x-ndjson"

/-- A request for text, as far as it has to be known to pass it on. -/
structure Completion where
  path : String
  model : String
  /-- The body for a model's name. -/
  body : String → Json
  isStream : Bool
  chat : Option String
  /-- The media type of an answer that comes piece by piece. -/
  mediaType : Option String

/-- The completion that a chat asks for. -/
def Completion.ofChat (f : ChatForm) : Completion where
  path := "/api/chat"
  model := withDefaultTag f.model
  body := fun model => { f with model }.toJson
  isStream := f.isStream
  chat := f.chatId?
  mediaType := some linesType

/-- The completion that a text asks for. -/
def Completion.ofGenerate (f : GenerateForm) : Completion where
  path := "/api/generate"
  model := withDefaultTag f.model
  body := fun model => { f with model }.toJson
  isStream := f.isStream
  chat := f.chatId?
  mediaType := none

/-- Passes a completion on. -/
def complete (rules : Rules) (r : Request) (idx : Option Nat) (c : Completion) :
    Attempt Response := do
  let b ← resolve c.model idx
  let headers := passedOn rules r c.chat
  let body := c.body (b.unqualify c.model)
  if c.isStream then
    postStream (b.endpoint c.path) body b.config.bearerKey headers c.mediaType
  else
    return .ofJson 200 (← postJson (b.endpoint c.path) body b.config.bearerKey headers)

/-- Answers a chat. -/
def chat (rules : Rules) (r : Request) (idx : Option Nat) : Attempt Response := do
  complete rules r idx (.ofChat (← attempt (formOf ChatForm.parse r)))

/-- Answers a request for a text. -/
def generate (rules : Rules) (r : Request) (idx : Option Nat) : Attempt Response := do
  complete rules r idx (.ofGenerate (← attempt (formOf GenerateForm.parse r)))

/-- Answers a request for an embedding; only without a position the tag is filled in. -/
def embed (rules : Rules) (r : Request) (idx : Option Nat) (path : String) :
    Attempt Response := do
  let form ← attempt (formOf EmbedForm.parse r)
  let model := if idx.isNone then withDefaultTag form.model else form.model
  let b ← resolve model idx
  let body := { form with model := b.unqualify model }.toJson
  return .ofJson 200
    (← postJson (b.endpoint path) body b.config.bearerKey (passedOn rules r none))

end Gateway
end RunnerGateway
