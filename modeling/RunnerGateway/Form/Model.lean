import RunnerGateway.Form.Basic

/-!
# Forms that name a model

The embedding form, and the form of the routes that show, fetch or delete a model.  Older clients
send the model of the latter as `name`.
-/

namespace RunnerGateway

open Json

/-- A request for the embedding of a text. -/
structure EmbedForm where
  model : String
  rest : Dict Json

namespace EmbedForm

/-- The form that a body stands for. -/
def parse (v : Json) : Except FormFault EmbedForm :=
  (Form.members .embed v).map fun members =>
    { model := (Form.text? members "model").getD ""
      rest := Form.without ["model"] members }

/-- The form as it is passed on. -/
def toJson (f : EmbedForm) : Json :=
  .ofMembers (("model", .str f.model) :: f.rest)

end EmbedForm

/-- A request about a model. -/
structure ModelNameForm where
  model : Option String
  rest : Dict Json

namespace ModelNameForm

/-- The form that a body stands for; a missing `model` is taken from `name`, which stays. -/
def parse (v : Json) : Except FormFault ModelNameForm :=
  (Form.members .modelName v).map fun members =>
    { model := (Form.text? members "model").or (Form.text? members "name")
      rest := Form.without ["model"] members }

/-- The model, which must be named and not empty. -/
def requireModel (f : ModelNameForm) : Except FormFault String :=
  match f.model.filter fun m => m ≠ "" with
  | some model => .ok model
  | none => .error .modelRequired

/-- The form for `model`, without the older member for its name. -/
def naming (f : ModelNameForm) (model : String) : ModelNameForm where
  model := some model
  rest := Form.without ["name"] f.rest

/-- The form as it is passed on. -/
def toJson (f : ModelNameForm) : Json :=
  match f.model with
  | none => .ofMembers f.rest
  | some model => .ofMembers (("model", .str model) :: f.rest)

end ModelNameForm

/-- A request to try whether a base URL can be reached. -/
structure VerifyForm where
  url : String
  key : Option String

namespace VerifyForm

/-- The form that a value in canonical form stands for. -/
def ofCanonical (v : Json) : VerifyForm :=
  let members := v.object?.getD []
  { url := ((Record.member? members "url").bind Json.string?).getD ""
    key := (Record.member? members "key").bind Json.string? }

/-- The form that a body stands for. -/
def decode (v : Json) : Except Cause VerifyForm :=
  (Record.schema.decode (.record .verifyConnection) v).map ofCanonical

/-- The form as it is written; a missing key is written as `null`. -/
def toJson (f : VerifyForm) : Json :=
  .obj [("url", .str f.url), ("key", (f.key.map Json.str).getD .null)]

end VerifyForm
end RunnerGateway
