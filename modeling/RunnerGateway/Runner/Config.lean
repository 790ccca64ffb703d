import RunnerGateway.Backend
import RunnerGateway.Text.Numeral
import RunnerGateway.Url

/-!
# The configuration of the runners

The switch for the whole interface, the base URLs whose positions name the backends, and the
entries.  An entry is looked up by the position of its backend, then by the base URL, then by the
URL's origin.  An update replaces URLs and entries, and keeps only entries whose key is the numeral
of a position.
-/

namespace RunnerGateway

open Json

/-- The configuration of all runners. -/
structure RunnerConfig where
  enabled : Bool := true
  baseUrls : List String := []
  apiConfigs : Dict BackendConfig := []

/-- The wish for a new configuration; without a switch the former one stays. -/
structure ConfigUpdate where
  enabled : Option Bool
  baseUrls : List String
  apiConfigs : Dict BackendConfig

/-- A base URL without blanks around it, and then without slashes at its end. -/
def normalizeBaseUrl (url : String) : String :=
  String.ofList (Text.dropEndWhile (fun c => c = '/') (Text.trimBlank url.toList))

/-- The base URLs of a text that separates them by semicolons. -/
def splitBaseUrls (text : String) : List String :=
  ((Text.pieces ';' text.toList).map fun url => normalizeBaseUrl (String.ofList url)).filter
    fun url => url ≠ ""

/-- The members of a dictionary of entries. -/
def entryMembers (entries : Dict BackendConfig) : List (String × Json) :=
  entries.map fun (key, entry) => (key, entry.toJson)

/-- The dictionary of entries of a value in canonical form. -/
def entriesOfCanonical (v : Json) : Dict BackendConfig :=
  (v.object?.getD []).map fun (key, entry) => (key, BackendConfig.ofCanonical entry)

namespace RunnerConfig

instance : Inhabited RunnerConfig := ⟨{}⟩

/-- The configuration of the given URLs, without entries; blank URLs are left out. -/
def ofUrls (enabled : Bool) (urls : List String) : RunnerConfig where
  enabled := enabled
  baseUrls := (urls.map normalizeBaseUrl).filter fun url => url ≠ ""
  apiConfigs := []

/-- The entry for a position and its base URL: by the position, by the URL, or by its origin. -/
def entryFor? (c : RunnerConfig) (idx : Nat) (url : String) : Option BackendConfig :=
  (Dict.get? c.apiConfigs (Text.numeral idx)).or
    ((Dict.get? c.apiConfigs url).or
      ((Url.originOf? url).bind fun origin => Dict.get? c.apiConfigs origin))

/-- The entry of the backend at a position. -/
def backendConfig? (c : RunnerConfig) (idx : Nat) : Option BackendConfig :=
  (c.baseUrls[idx]?).bind fun url => c.entryFor? idx url

/-- The backend at a position; without an entry the defaults hold for it. -/
def backend? (c : RunnerConfig) (idx : Nat) : Option Backend :=
  (c.baseUrls[idx]?).map fun url =>
    { idx := idx, url := url, config := (c.entryFor? idx url).getD {} }

/-- All backends in the order of their positions. -/
def backends (c : RunnerConfig) : List Backend :=
  (List.range c.baseUrls.length).filterMap c.backend?

/-- The key is the numeral of a position. -/
def isPosition (c : RunnerConfig) (key : String) : Bool :=
  match Text.readWord key with
  | .ok idx => idx < c.baseUrls.length && Text.numeral idx = key
  | .error _ => false

/-- The configuration with only the entries whose key is the numeral of a position. -/
def prune (c : RunnerConfig) : RunnerConfig :=
  { c with apiConfigs := c.apiConfigs.filter fun entry => c.isPosition entry.1 }

/-- The configuration after an update. -/
def applyUpdate (c : RunnerConfig) (form : ConfigUpdate) : RunnerConfig :=
  prune
    { enabled := form.enabled.getD c.enabled
      baseUrls := form.baseUrls.map normalizeBaseUrl
      apiConfigs := form.apiConfigs }

/-- The configuration as it is written. -/
def toJson (c : RunnerConfig) : Json :=
  .obj [
    (Record.enabledKey, .bool c.enabled),
    (Record.baseUrlsKey, .ofStrings c.baseUrls),
    (Record.apiConfigsKey, .obj (entryMembers c.apiConfigs))]

/-- The configuration that a value in canonical form stands for. -/
def ofCanonical (v : Json) : RunnerConfig :=
  let members := v.object?.getD []
  { enabled := ((Record.member? members Record.enabledKey).bind Json.bool?).getD true
    baseUrls := ((Record.member? members Record.baseUrlsKey).map Record.strings).getD []
    apiConfigs :=
      ((Record.member? members Record.apiConfigsKey).map entriesOfCanonical).getD [] }

/-- The configuration that a value stands for. -/
def decode (v : Json) : Except Cause RunnerConfig :=
  (Record.schema.decode (.record .runnerConfig) v).map ofCanonical

/-- The configuration that a text stands for. -/
def read (text : String) : Except String RunnerConfig :=
  (Record.schema.read (.record .runnerConfig) text).map ofCanonical

end RunnerConfig

namespace ConfigUpdate

/-- The update as it is written. -/
def toJson (form : ConfigUpdate) : Json :=
  let switch :=
    match form.enabled with
    | some enabled => [(Record.enabledKey, Json.bool enabled)]
    | none => []
  .obj (switch ++ [
    (Record.baseUrlsKey, .ofStrings form.baseUrls),
    (Record.apiConfigsKey, .obj (entryMembers form.apiConfigs))])

/-- The update that a value in canonical form stands for. -/
def ofCanonical (v : Json) : ConfigUpdate :=
  let members := v.object?.getD []
  { enabled := (Record.member? members Record.enabledKey).bind Json.bool?
    baseUrls := ((Record.member? members Record.baseUrlsKey).map Record.strings).getD []
    apiConfigs :=
      ((Record.member? members Record.apiConfigsKey).map entriesOfCanonical).getD [] }

/-- The update that a value stands for. -/
def decode (v : Json) : Except Cause ConfigUpdate :=
  (Record.schema.decode (.record .configUpdate) v).map ofCanonical

/-- The update that a configuration asks for as it is. -/
def ofConfig (c : RunnerConfig) : ConfigUpdate where
  enabled := some c.enabled
  baseUrls := c.baseUrls
  apiConfigs := c.apiConfigs

end ConfigUpdate
end RunnerGateway
