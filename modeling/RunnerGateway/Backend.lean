import RunnerGateway.Backend.Config
import RunnerGateway.Text.Blank

/-!
# Backends

A backend is one model runner: its position in the list of base URLs, by which clients may ask for
it, its base URL, and its entry.  Within the catalogue its models are qualified by the name space
of its entry, and a request is sent to it with the name that it knows itself.
-/

namespace RunnerGateway

/-- One model runner, with the settings that hold for it. -/
structure Backend where
  idx : Nat
  url : String
  config : BackendConfig

namespace Backend

/-- The backend may be used. -/
def isEnabled (b : Backend) : Bool :=
  b.config.enable

/-- The URL of a path of the backend. -/
def endpoint (b : Backend) (path : String) : String :=
  b.url ++ path

/-- The name of a model of the backend within the catalogue. -/
def qualify (b : Backend) (model : String) : String :=
  match b.config.space with
  | some space => space ++ "." ++ model
  | none => model

/-- The backend's own name of a model of the catalogue: the name space is taken off where it
stands. -/
def unqualify (b : Backend) (model : String) : String :=
  match b.config.space with
  | none => model
  | some space =>
    match Text.after? (space ++ ".").toList model.toList with
    | some rest => String.ofList rest
    | none => model

end Backend
end RunnerGateway
