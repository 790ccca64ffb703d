import RunnerGateway.Gateway.Models

/-!
# Choosing a backend

A request goes to the backend at a given position, or to one that serves its model.  Of those that
serve it, each takes its turn; deleting always goes to the first.  The positions come from the
catalogue, but what stands at a position comes from the present configuration.
-/

namespace RunnerGateway
namespace Gateway

/-- The enabled backends at the positions of an entry. -/
def serving (c : RunnerConfig) (e : ModelEntry) : List Backend :=
  (e.urls.filterMap c.backend?).filter Backend.isEnabled

/-- The enabled backends that serve a model. -/
def candidates (model : String) : Attempt (List Backend) := do
  match ← lookup model with
  | none => throw (.modelNotFound model)
  | some entry => return serving (← Task.config) entry

/-- The element whose turn it is. -/
def atTurn (first : α) (others : List α) (turn : UInt64) : α :=
  (first :: others).get ⟨turn.toNat % (others.length + 1), Nat.mod_lt _ (Nat.succ_pos _)⟩

/-- The backend of a model whose turn it is. -/
def select (model : String) : Attempt Backend := do
  match ← candidates model with
  | [] => throw (.noBackendsAvailable model)
  | first :: others => return atTurn first others (← Task.turn model)

/-- The first backend of a model. -/
def firstServing (model : String) : Attempt Backend := do
  match ← candidates model with
  | [] => throw (.noBackendsAvailable model)
  | first :: _ => return first

/-- The backend at a position. -/
def backendAt (idx : Nat) : Attempt Backend := do
  match (← Task.config).backend? idx with
  | some b => return b
  | none => throw (.backendNotFound idx)

/-- The backend at a position if there is one given, and else the one whose turn it is. -/
def resolve (model : String) (idx : Option Nat) : Attempt Backend :=
  match idx with
  | some idx => backendAt idx
  | none => select model

end Gateway
end RunnerGateway
