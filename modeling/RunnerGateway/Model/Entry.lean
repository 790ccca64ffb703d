import RunnerGateway.Json.Reader
import RunnerGateway.Record
import RunnerGateway.Text.Numeral

/-!
# Entries of the model catalogue

An entry is a model's name, all other members of the object in which a backend reported it, and the
positions of the backends that serve it.
-/

namespace RunnerGateway

open Json

/-- A model of the catalogue. -/
structure ModelEntry where
  model : String
  fields : Dict Json
  urls : List Nat

namespace ModelEntry

/-- The name of a reported model: its `model` if that is a string, and else its `name`. -/
def nameOf? (members : Dict Json) : Option String :=
  match Dict.get? members "model" with
  | some (.str model) => some model
  | _ => (Dict.get? members "name").bind Json.string?

/-- The entry of a model that a backend reported; nobody serves it yet. -/
def ofValue? (v : Json) : Option ModelEntry :=
  v.object?.bind fun members =>
    (nameOf? members).map fun model =>
      { model := model, fields := Dict.erase (Dict.erase members "model") "urls", urls := [] }

/-- The member `key` of the reported object. -/
def field? (e : ModelEntry) (key : String) : Option Json :=
  Dict.get? e.fields key

/-- The entry with `value` as its member `key`. -/
def setField (e : ModelEntry) (key : String) (value : Json) : ModelEntry :=
  { e with fields := Dict.insert e.fields key value }

/-- The members of the entry as it is written; nobody's positions are left out. -/
def members (e : ModelEntry) : List (String × Json) :=
  [("model", .str e.model)] ++ e.fields ++
    (if e.urls.isEmpty then [] else [("urls", .arr (e.urls.map Json.ofNat))])

/-- The entry as it is written. -/
def toJson (e : ModelEntry) : Json :=
  .obj e.members

/-- The entry that a value in canonical form stands for. -/
def ofCanonical (v : Json) : ModelEntry :=
  let members := v.object?.getD []
  { model := ((Record.member? members "model").bind Json.string?).getD ""
    fields := Record.extras .modelEntry members
    urls :=
      (((Record.member? members "urls").bind Json.array?).getD []).filterMap Json.nat? }

end ModelEntry

/-- A list of models, as it is sent and received. -/
structure ModelList where
  models : List ModelEntry

namespace ModelList

/-- The entries of the models that a backend reported, in its order. -/
def reported (response : Json) : List ModelEntry :=
  (((response.field? "models").bind Json.array?).getD []).filterMap ModelEntry.ofValue?

/-- The first entry of a model. -/
def find? (l : ModelList) (model : String) : Option ModelEntry :=
  l.models.find? fun e => e.model = model

/-- The list as it is written. -/
def toJson (l : ModelList) : Json :=
  .obj [("models", .arr (l.models.map ModelEntry.toJson))]

/-- The list that a value in canonical form stands for. -/
def ofCanonical (v : Json) : ModelList where
  models := (((v.field? "models").bind Json.array?).getD []).map ModelEntry.ofCanonical

/-- The list that a value stands for. -/
def decode (v : Json) : Except Cause ModelList :=
  (Record.schema.decode (.record .modelList) v).map ofCanonical

/-- The list that a text stands for. -/
def read (text : String) : Except String ModelList :=
  (Record.schema.read (.record .modelList) text).map ofCanonical

end ModelList
end RunnerGateway
