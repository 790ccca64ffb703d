import RunnerGateway.Model.Entry
import RunnerGateway.Runner.Config
import RunnerGateway.Exchange.Reply

/-!
# Tasks of the gateway

Many requests are answered at the same time, and all of them read and change one state.  A task is
what is done for one request: a tree of operations on the state and on the backends, each of which
takes place at one moment, with everything else decided by their answers.  Between two operations of
a task any operation of another task may take place.
-/

namespace RunnerGateway
namespace Gateway

open Exchange

/-- What happens at one moment. -/
inductive Op
  /-- Reads the configuration. -/
  | config
  /-- Applies an update to the configuration and stores the result. -/
  | configure (form : ConfigUpdate)
  /-- Reads the catalogue, unless it is too old. -/
  | cached
  /-- Reads the number of times that the catalogue was thrown away. -/
  | generation
  /-- Keeps a new catalogue, unless the former one was thrown away after `generation` was read. -/
  | publish (generation : Nat) (models : List ModelEntry)
  /-- Throws the catalogue away. -/
  | invalidate
  /-- Looks a model up in the catalogue, however old it is. -/
  | routed (model : String)
  /-- Takes the next turn of a model. -/
  | turn (model : String)
  /-- Calls backends, all at once. -/
  | exchange (calls : List Call)

/-- What an operation answers. -/
def Op.Answer : Op → Type
  | .config => RunnerConfig
  | .configure _ => Except GatewayError RunnerConfig
  | .cached => Option (List ModelEntry)
  | .generation => Nat
  | .publish _ _ => Bool
  | .invalidate => Unit
  | .routed _ => Option ModelEntry
  | .turn _ => UInt64
  | .exchange _ => List Outcome

/-- A result, or an operation and what is done with its answer. -/
inductive Task (α : Type)
  | done (result : α)
  | step (op : Op) (next : op.Answer → Task α)

namespace Task

/-- One task after the other, which may depend on the result of the first. -/
protected def bind (t : Task α) (f : α → Task β) : Task β :=
  match t with
  | .done a => f a
  | .step op next => .step op fun answer => (next answer).bind f

instance : Monad Task where
  pure := .done
  bind := Task.bind

/-- The task of a single operation. -/
def perform (op : Op) : Task op.Answer :=
  .step op .done

/-- Reads the configuration. -/
def config : Task RunnerConfig := perform .config

/-- Applies an update to the configuration. -/
def configure (form : ConfigUpdate) : Task (Except GatewayError RunnerConfig) :=
  perform (.configure form)

/-- Reads the catalogue, unless it is too old. -/
def cached : Task (Option (List ModelEntry)) := perform .cached

/-- Reads the number of times that the catalogue was thrown away. -/
def generation : Task Nat := perform .generation

/-- Keeps a new catalogue, and tells whether it was kept. -/
def publish (generation : Nat) (models : List ModelEntry) : Task Bool :=
  perform (.publish generation models)

/-- Throws the catalogue away. -/
def invalidate : Task Unit := perform .invalidate

/-- Looks a model up in the catalogue. -/
def routed (model : String) : Task (Option ModelEntry) := perform (.routed model)

/-- Takes the next turn of a model. -/
def turn (model : String) : Task UInt64 := perform (.turn model)

/-- Calls backends, all at once. -/
def exchange (calls : List Call) : Task (List Outcome) := perform (.exchange calls)

/-- Calls one backend. -/
def call (c : Call) : Task Outcome := do
  match ← exchange [c] with
  | outcome :: _ => return outcome
  | [] => return .error .badValue

end Task
end Gateway
end RunnerGateway
