import RunnerGateway.Form.Basic

/-!
# Chat and text generation

The two forms whose answers may come piece by piece.  Every message of a chat has to say something
or call a tool.  The metadata of the host application are read and not passed on.
-/

namespace RunnerGateway

open Json

/-- A request for the next message of a conversation. -/
structure ChatForm where
  model : String
  messages : List (Dict Json)
  stream : Option Bool
  metadata : Option Json
  rest : Dict Json

namespace ChatForm

/-- A message that says something or calls a tool. -/
def saysSomething (message : Dict Json) : Bool :=
  (Dict.get? message "content").isSome || (Dict.get? message "tool_calls").isSome

/-- The first message from position `position` on that says nothing. -/
def silent? (position : Nat) : List (Dict Json) → Option Nat
  | [] => none
  | m :: rest => if saysSomething m then silent? (position + 1) rest else some position

/-- The members of the form that are kept apart. -/
def ownKeys : List String := ["model", "messages", "stream", "metadata"]

/-- The messages of a form in canonical form, each without members that are `null`. -/
def messagesOf (members : Dict Json) : List (Dict Json) :=
  (((Dict.get? members "messages").bind Json.array?).getD []).map fun m =>
    Form.dropNulls (m.object?.getD [])

/-- The form that a body stands for. -/
def parse (v : Json) : Except FormFault ChatForm :=
  match Form.members .chat v with
  | .error fault => .error fault
  | .ok members =>
    let messages := messagesOf members
    match silent? 0 messages with
    | some position => .error (.emptyMessage position)
    | none =>
      .ok
        { model := (Form.text? members "model").getD ""
          messages := messages
          stream := Form.stream? v members
          metadata := Dict.get? members "metadata"
          rest := Form.without ownKeys members }

/-- The answer is wanted piece by piece. -/
def isStream (f : ChatForm) : Bool :=
  f.stream.getD false

/-- The identifier of the conversation. -/
def chatId? (f : ChatForm) : Option String :=
  Form.chatId? f.metadata

/-- The form as it is passed on. -/
def toJson (f : ChatForm) : Json :=
  .ofMembers ([("model", .str f.model), ("messages", .arr (f.messages.map .obj))] ++
    Form.streamMember f.stream ++ f.rest)

end ChatForm

/-- A request for the continuation of a text. -/
structure GenerateForm where
  model : String
  stream : Option Bool
  metadata : Option Json
  rest : Dict Json

namespace GenerateForm

/-- The members of the form that are kept apart. -/
def ownKeys : List String := ["model", "stream", "metadata"]

/-- The form that a body stands for. -/
def parse (v : Json) : Except FormFault GenerateForm :=
  (Form.members .generate v).map fun members =>
    { model := (Form.text? members "model").getD ""
      stream := Form.stream? v members
      metadata := Dict.get? members "metadata"
      rest := Form.without ownKeys members }

/-- The answer is wanted piece by piece. -/
def isStream (f : GenerateForm) : Bool :=
  f.stream.getD false

/-- The identifier of the conversation. -/
def chatId? (f : GenerateForm) : Option String :=
  Form.chatId? f.metadata

/-- The form as it is passed on. -/
def toJson (f : GenerateForm) : Json :=
  .ofMembers ([("model", .str f.model)] ++ Form.streamMember f.stream ++ f.rest)

end GenerateForm
end RunnerGateway
