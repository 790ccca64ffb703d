import RunnerGateway.Json.Reader
import RunnerGateway.Record

/-!
# The entry of a backend

What the administration may set for one backend: whether it is used at all, its key, the name space
of its models, the tags and the connection kind shown with them, and which models it may serve.
Members that are not known are kept, because the administration page stores settings of its own.
-/

namespace RunnerGateway

open Json

/-- A tag of a model, in the form in which it was given. -/
inductive Tag
  | name (name : String)
  | object (name : String)
  deriving DecidableEq, Repr

namespace Tag

/-- What the tag is called. -/
def label : Tag → String
  | .name n => n
  | .object n => n

/-- The tag as a value, in the form in which it was given. -/
def toJson : Tag → Json
  | .name n => .str n
  | .object n => .obj [("name", .str n)]

/-- The tag that a value in canonical form stands for. -/
def ofJson? : Json → Option Tag
  | .str n => some (.name n)
  | .obj members =>
    match Dict.get? members "name" with
    | some (.str n) => some (.object n)
    | _ => none
  | _ => none

end Tag

/-- A text that is not empty. -/
def nonEmpty (s : Option String) : Option String :=
  s.filter fun text => text ≠ ""

/-- The settings of one backend. -/
structure BackendConfig where
  enable : Bool := true
  key : Option String := none
  prefixId : Option String := none
  tags : List Tag := []
  modelIds : List String := []
  connectionType : Option String := none
  extra : Dict Json := []

namespace BackendConfig

instance : Inhabited BackendConfig := ⟨{}⟩

/-- The bearer key; an empty one counts as none. -/
def bearerKey (c : BackendConfig) : Option String :=
  nonEmpty c.key

/-- The name space of the backend's models; an empty one counts as none. -/
def space (c : BackendConfig) : Option String :=
  nonEmpty c.prefixId

/-- The connection kind of a backend for which none is set. -/
def defaultConnection : String := "docker"

/-- The connection kind shown with the backend's models. -/
def connection (c : BackendConfig) : String :=
  (nonEmpty c.connectionType).getD defaultConnection

/-- The backend may serve `model`: its list of models is empty or has it. -/
def allows (c : BackendConfig) (model : String) : Bool :=
  c.modelIds.isEmpty || c.modelIds.contains model

/-- An optional string as a member. -/
def optionalMember (key : String) : Option String → List (String × Json)
  | none => []
  | some s => [(key, .str s)]

/-- The members of the entry, as they are written: the known ones in a fixed order, then the other
ones. -/
def members (c : BackendConfig) : List (String × Json) :=
  [("enable", .bool c.enable)] ++ optionalMember "key" c.key ++
    optionalMember "prefix_id" c.prefixId ++
    [("tags", .arr (c.tags.map Tag.toJson)), ("model_ids", .ofStrings c.modelIds)] ++
    optionalMember "connection_type" c.connectionType ++ c.extra

/-- The entry as it is written. -/
def toJson (c : BackendConfig) : Json :=
  .obj c.members

/-- The entry that a value in canonical form stands for. -/
def ofCanonical (v : Json) : BackendConfig :=
  let members := v.object?.getD []
  let text (key : String) := (Record.member? members key).bind Json.string?
  { enable := ((Record.member? members "enable").bind Json.bool?).getD true
    key := text "key"
    prefixId := text "prefix_id"
    tags := (((Record.member? members "tags").bind Json.array?).getD []).filterMap Tag.ofJson?
    modelIds := ((Record.member? members "model_ids").map Record.strings).getD []
    connectionType := text "connection_type"
    extra := Record.extras .backendConfig members }

/-- The entry that a value stands for. -/
def decode (v : Json) : Except Cause BackendConfig :=
  (Record.schema.decode (.record .backendConfig) v).map ofCanonical

/-- The entry that a text stands for. -/
def read (text : String) : Except String BackendConfig :=
  (Record.schema.read (.record .backendConfig) text).map ofCanonical

end BackendConfig
end RunnerGateway
