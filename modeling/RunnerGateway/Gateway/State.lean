import RunnerGateway.Gateway.Task
import RunnerGateway.Settings
import RunnerGateway.Store

/-!
# The state of the gateway

The configuration with the store that keeps it, the catalogue with the map that requests are routed
by, and the turns of the models.  `State.perform` is the effect of one operation; `Task.run`
performs all operations of a task one after the other, with nothing in between.
-/

namespace RunnerGateway
namespace Gateway

open Exchange

/-- What holds for the whole life of a gateway. -/
structure Rules where
  keys : Access.Keys := .unchecked
  forwardsUser : Bool := false
  /-- How many milliseconds a catalogue stays fresh. -/
  freshness : Nat := 1000

/-- The rules that follow from the settings. -/
def Rules.ofSettings (s : GatewaySettings) : Rules where
  keys := .ofSettings s.access
  forwardsUser := s.forwardsUser
  freshness := s.timeouts.freshness * 1000

/-- The models of the catalogue, and the time in milliseconds at which they were kept. -/
structure Catalogue where
  since : Nat
  models : List ModelEntry

/-- All that changes in the life of a gateway. -/
structure State where
  config : RunnerConfig := {}
  store : Option Store := none
  /-- How often the catalogue was thrown away.  It is only ever compared with what it was when a
  refresh began, so a counter of 64 bits, which starts over after 2^64, would tell the same unless
  the catalogue were thrown away that often in the course of one refresh. -/
  generation : Nat := 0
  catalogue : Option Catalogue := none
  /-- The entries of the catalogue by their models. -/
  routes : Dict ModelEntry := []
  /-- The turn that each model takes next; a model without one takes the first. -/
  turns : Dict UInt64 := []
  /-- The time in milliseconds. -/
  now : Nat := 0

namespace State

/-- The state at the start of a gateway without a store. -/
def ofConfig (c : RunnerConfig) : State where
  config := c

/-- The state at the start of a gateway with a store: the stored configuration counts, and without
one the given one is stored. -/
def load (seed : RunnerConfig) (store : Store) : Except GatewayError State := do
  match ← store.runners? with
  | some config => return { config, store := some store }
  | none => return { config := seed, store := some (← store.setRunners seed) }

/-- The effect of an update: the store comes first, and if it fails nothing changes. -/
def configure (s : State) (form : ConfigUpdate) : Except GatewayError RunnerConfig × State :=
  let config := s.config.applyUpdate form
  match s.store with
  | none => (.ok config, { s with config })
  | some store =>
    match store.setRunners config with
    | .ok store => (.ok config, { s with config, store := some store })
    | .error e => (.error e, s)

/-- The models of the catalogue, unless they are too old. -/
def cached (rules : Rules) (s : State) : Option (List ModelEntry) :=
  (s.catalogue.filter fun c => s.now - c.since < rules.freshness).map Catalogue.models

/-- The map from models to their entries. -/
def routesOf (models : List ModelEntry) : Dict ModelEntry :=
  Dict.ofList (models.map fun e => (e.model, e))

/-- The effect of a new catalogue: it is kept if its generation is still the present one. -/
def publish (s : State) (generation : Nat) (models : List ModelEntry) : Bool × State :=
  if s.generation = generation then
    (true, { s with catalogue := some ⟨s.now, models⟩, routes := routesOf models })
  else (false, s)

/-- The state without a catalogue, in the next generation. -/
def invalidate (s : State) : State :=
  { s with generation := s.generation + 1, catalogue := none, routes := [] }

/-- The turn of a model. -/
def turnOf (s : State) (model : String) : UInt64 :=
  (Dict.get? s.turns model).getD 0

/-- The turn of a model, and the state with its next turn; after the last turn comes the first. -/
def turn (s : State) (model : String) : UInt64 × State :=
  let turn := s.turnOf model
  (turn, { s with turns := Dict.insert s.turns model (turn + 1) })

/-- The answer and the effect of an operation; `deliver` is what becomes of calls. -/
def perform (rules : Rules) (deliver : List Call → List Outcome) (s : State) :
    (op : Op) → op.Answer × State
  | .config => (s.config, s)
  | .configure form => s.configure form
  | .cached => (s.cached rules, s)
  | .generation => (s.generation, s)
  | .publish generation models => s.publish generation models
  | .invalidate => ((), s.invalidate)
  | .routed model => (Dict.get? s.routes model, s)
  | .turn model => s.turn model
  | .exchange calls => (deliver calls, s)

end State

/-- What becomes of requests on the wire, one after the other; the network may change with each. -/
abbrev Network (σ : Type) := σ → WireRequest → Delivery × σ

/-- The outcome of a call, and the network after it. -/
def Network.call (net : Network σ) (n : σ) (c : Call) : Outcome × σ :=
  match c.request? with
  | none => (c.outcome fun _ => .lost, n)
  | some request => let (delivery, n) := net n request; (c.outcome fun _ => delivery, n)

/-- The outcomes of calls, and the network after them. -/
def Network.exchange (net : Network σ) (n : σ) : List Call → List Outcome × σ
  | [] => ([], n)
  | c :: cs =>
    let (outcome, n) := net.call n c
    let (outcomes, n) := net.exchange n cs
    (outcome :: outcomes, n)

/-- The network after an operation. -/
def Network.after (net : Network σ) (n : σ) : Op → σ
  | .exchange calls => (net.exchange n calls).2
  | _ => n

/-- The result of a task that nothing interrupts, and the state and the network after it. -/
def Task.run (rules : Rules) (net : Network σ) : Task α → State → σ → α × State × σ
  | .done a, s, n => (a, s, n)
  | .step op next, s, n =>
    let (answer, s') := s.perform rules (fun calls => (net.exchange n calls).1) op
    (next answer).run rules net s' (net.after n op)

end Gateway
end RunnerGateway
