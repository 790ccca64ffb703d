import RunnerGateway.Json.Reader
import RunnerGateway.Record

/-!
# Request forms

What a client may send to the inference and model routes.  A form keeps apart the members that the
gateway looks at; all other ones are checked and then carried along as they are, without those that
are `null`.
-/

namespace RunnerGateway

open Json

/-- Why a body is no valid form. -/
inductive FormFault
  | shape (cause : Cause)
  | emptyMessage (position : Nat)
  | modelRequired
  deriving DecidableEq, Repr

/-- What is wrong with the form, in words. -/
def FormFault.message : FormFault → String
  | .shape cause => cause.message
  | .emptyMessage position =>
    "messages[" ++ Text.numeral position ++
      "]: At least one of 'content' or 'tool_calls' must be provided"
  | .modelRequired => "'model' or 'name' is required"

namespace Form

/-- The members without those that are `null`. -/
def dropNulls (members : Dict Json) : Dict Json :=
  members.filter fun m => !m.2.isNull

/-- The members of a record that are given, in canonical form. -/
def members (r : Record) (v : Json) : Except FormFault (Dict Json) :=
  match Record.schema.decode (.record r) v with
  | .error cause => .error (.shape cause)
  | .ok v => .ok (dropNulls (v.object?.getD []))

/-- The members other than those named in `keys`. -/
def without (keys : List String) (members : Dict Json) : Dict Json :=
  members.filter fun m => !keys.contains m.1

/-- The text under `key`. -/
def text? (members : Dict Json) (key : String) : Option String :=
  (Dict.get? members key).bind Json.string?

/-- Whether the answer is wanted piece by piece: what the body says, and `true` if it does not have
the member at all. -/
def stream? (v : Json) (members : Dict Json) : Option Bool :=
  match v.field? "stream" with
  | none => some true
  | some _ => (Dict.get? members "stream").bind Json.bool?

/-- The identifier of the conversation that the host application sent along. -/
def chatId? (metadata : Option Json) : Option String :=
  ((metadata.bind fun m => m.field? "chat_id").bind Json.string?).filter fun id => id ≠ ""

/-- A switch that may be unset, as a member. -/
def streamMember : Option Bool → List (String × Json)
  | none => []
  | some b => [("stream", .bool b)]

end Form

/-- The name of a model in which a missing tag is filled in. -/
def withDefaultTag (model : String) : String :=
  if model.toList.contains ':' then model else model ++ ":latest"

end RunnerGateway
