import RunnerGateway.Gateway.Client
import RunnerGateway.Model.Merge
import RunnerGateway.Version

/-!
# The catalogue of models

The catalogue is one list of the models of all enabled backends.  It is computed from what all of
them report at the same time, and kept for a while.  If it is thrown away while it is being
computed, because the configuration changed, the computation starts again, but not more than three
times; the last result is then used without being kept.
-/

namespace RunnerGateway
namespace Gateway

open Exchange

/-- The call for what a backend tells at a path. -/
def listingCall (path : String) (b : Backend) : Call :=
  reading (b.endpoint path) b.config.bearerKey []

/-- The outcomes for all backends, given those for the enabled ones. -/
def spread : List Backend → List Outcome → List (Option Outcome)
  | [], _ => []
  | b :: bs, outcomes =>
    if b.isEnabled then outcomes.head? :: spread bs outcomes.tail else none :: spread bs outcomes

/-- What the backends of a configuration report at a path; the disabled ones are not asked. -/
def reports (c : RunnerConfig) (path : String) :
    Task (List (Backend × Option (List ModelEntry))) := do
  let asked := c.backends.filter Backend.isEnabled
  let outcomes ← Task.exchange (asked.map (listingCall path))
  let reported := (spread c.backends outcomes).map fun outcome =>
    (outcome.bind value?).map ModelList.reported
  return c.backends.zip reported

/-- One list of the models that the backends reported, after each list was adapted. -/
def mergeReports (adapt : Backend → List ModelEntry → List ModelEntry)
    (reports : List (Backend × Option (List ModelEntry))) : List ModelEntry :=
  ModelList.merge (reports.map fun (b, models) => models.map (adapt b))

/-- The models that are loaded by the backends of a configuration. -/
def fetchLoaded (c : RunnerConfig) : Task (List ModelEntry) := do
  if c.enabled then
    return mergeReports Backend.decorateLoaded (← reports c "/api/ps")
  else return []

/-- The models that the backends have. -/
def fetchModels : Task (List ModelEntry) := do
  let c ← Task.config
  if c.enabled then
    let models := mergeReports Backend.decorateModels (← reports c "/api/tags")
    return ModelList.annotate models (← fetchLoaded c)
  else return []

/-- A new catalogue, in one attempt and up to `more` further ones. -/
def refreshWithin (more : Nat) : Task (List ModelEntry) := do
  let generation ← Task.generation
  let models ← fetchModels
  if ← Task.publish generation models then return models
  match more with
  | 0 => return models
  | more + 1 => refreshWithin more

/-- A new catalogue. -/
def refresh : Task (List ModelEntry) :=
  refreshWithin 2

/-- The catalogue, a new one if the kept one is too old. -/
def allModels : Task (List ModelEntry) := do
  match ← Task.cached with
  | some models => return models
  | none => refresh

/-- The loaded models. -/
def loadedModels : Task (List ModelEntry) := do
  fetchLoaded (← Task.config)

/-- The entry of a model: by the map if it is there, and else from the catalogue. -/
def lookup (model : String) : Task (Option ModelEntry) := do
  match ← Task.routed model with
  | some entry => return some entry
  | none => return (ModelList.mk (← allModels)).find? model

/-- The version that a backend told. -/
def toldVersion? (outcome : Outcome) : Option String :=
  ((value? outcome).bind fun v => v.field? "version").bind Json.string?

/-- The lowest version of the enabled backends, or `false` if the interface is disabled. -/
def lowestVersion : Attempt Json := do
  let c ← Task.config
  if c.enabled then
    let asked := c.backends.filter Backend.isEnabled
    let outcomes ← Task.exchange (asked.map (listingCall "/api/version"))
    match Version.lowest? (outcomes.filterMap toldVersion?) with
    | some version => return .str version
    | none => throw .runnerNotFound
  else return .bool false

end Gateway
end RunnerGateway
