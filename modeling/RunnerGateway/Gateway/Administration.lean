import RunnerGateway.Gateway.Inference

/-!
# Models and settings

The routes that list, show, fetch and delete models, tell versions, and read or change the
configuration.
-/

namespace RunnerGateway
namespace Gateway

open Http Exchange

/-- Tells that the gateway is alive. -/
def status : Response :=
  .ofJson 200 (.obj [("status", .bool true)])

/-! ## Lists -/

/-- Answers with the catalogue, or with the list of one backend as that tells it. -/
def tags (rules : Rules) (r : Request) (idx : Option Nat) : Attempt Response := do
  match idx with
  | none => return .ofJson 200 (ModelList.mk (← allModels)).toJson
  | some idx =>
    let b ← backendAt idx
    return .ofJson 200
      (← fetch (b.endpoint "/api/tags") b.config.bearerKey (passedOn rules r none))

/-- Answers with the loaded models. -/
def loaded : Attempt Response := do
  return .ofJson 200 (ModelList.mk (← loadedModels)).toJson

/-- Answers with the lowest version, or with what one backend tells of its version. -/
def version (idx : Option Nat) : Attempt Response := do
  match idx with
  | none => return .ofJson 200 (.obj [("version", ← lowestVersion)])
  | some idx =>
    if (← Task.config).enabled then
      let b ← backendAt idx
      return .ofJson 200 (← fetch (b.endpoint "/api/version") b.config.bearerKey [])
    else return .ofJson 200 (.obj [("version", .bool false)])

/-! ## Single models -/

/-- Answers with what a backend tells of a model. -/
def describe (rules : Rules) (r : Request) : Attempt Response := do
  let form ← attempt (formOf ModelNameForm.parse r)
  let named ← attempt (form.requireModel.mapError fun fault => .validation fault.message)
  let model := withDefaultTag named
  let b ← select model
  let body := (form.naming (b.unqualify model)).toJson
  return .ofJson 200
    (← postJson (b.endpoint "/api/show") body b.config.bearerKey (passedOn rules r none))

/-- Lets a backend fetch a model, the first backend if no position is given.  The name is passed on
as it is. -/
def pull (rules : Rules) (r : Request) (idx : Option Nat) : Attempt Response := do
  let form ← attempt (formOf ModelNameForm.parse r)
  let b ← backendAt (idx.getD 0)
  let body := { form with rest := Dict.insert form.rest "insecure" (.bool true) }.toJson
  postStream (b.endpoint "/api/pull") body b.config.bearerKey (passedOn rules r none) none

/-- The backend to delete a model from, and the name of the model for the gateway. -/
def deletion (named : String) (idx : Option Nat) : Attempt (String × Backend) := do
  match idx with
  | some idx => return (named, ← backendAt idx)
  | none =>
    let model := withDefaultTag named
    return (model, ← firstServing model)

/-- Deletes a model from a backend; after that the catalogue is out of date. -/
def delete (rules : Rules) (r : Request) (idx : Option Nat) : Attempt Response := do
  let form ← attempt (formOf ModelNameForm.parse r)
  let named ← attempt (form.requireModel.mapError fun fault => .validation fault.message)
  let (model, b) ← deletion named idx
  let body := (form.naming (b.unqualify model)).toJson
  sendDelete (b.endpoint "/api/delete") body b.config.bearerKey (passedOn rules r none)
  Task.invalidate
  return .ofJson 200 (.bool true)

/-! ## The configuration -/

/-- Tries whether a base URL can be reached. -/
def tryConnection (r : Request) : Attempt Response := do
  let v ← attempt (bodyOf r)
  let form ← attempt ((VerifyForm.decode v).mapError fun cause => .validation cause.message)
  return .ofJson 200 (← verify form.url (nonEmpty form.key))

/-- Answers with the configuration. -/
def showConfig : Attempt Response := do
  return .ofJson 200 (← Task.config).toJson

/-- Changes the configuration; after that the catalogue is out of date. -/
def changeConfig (r : Request) : Attempt Response := do
  let v ← attempt (bodyOf r)
  let form ← attempt ((ConfigUpdate.decode v).mapError fun cause => .validation cause.message)
  let config ← ExceptT.mk (Task.configure form)
  Task.invalidate
  return .ofJson 200 config.toJson

end Gateway
end RunnerGateway
