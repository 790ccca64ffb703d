import RunnerGateway.Backend
import RunnerGateway.Model.Entry
import RunnerGateway.Timestamp

/-!
# Merging the models of several backends

What one backend reports is first adapted to its entry: models that it may not serve are left out,
the others are qualified and marked.  Then the lists of all backends become one list in which every
model stands once, at its first appearance, with the positions of all backends that serve it.  The
times until which models stay loaded are carried over from a second list.
-/

namespace RunnerGateway

open Json

namespace Backend

/-- The entry of a model of the backend as the catalogue shows it. -/
def decorate (b : Backend) (e : ModelEntry) : ModelEntry :=
  let named := { e with model := b.qualify e.model }
  let tagged :=
    if b.config.tags.isEmpty then named
    else named.setField "tags" (.arr (b.config.tags.map Tag.toJson))
  tagged.setField "connection_type" (.str b.config.connection)

/-- The entries of the backend's models as the catalogue shows them. -/
def decorateModels (b : Backend) (models : List ModelEntry) : List ModelEntry :=
  (models.filter fun e => b.config.allows e.model).map b.decorate

/-- The entries of the backend's loaded models, which are only qualified. -/
def decorateLoaded (b : Backend) (models : List ModelEntry) : List ModelEntry :=
  models.map fun e => { e with model := b.qualify e.model }

end Backend

namespace ModelList

/-- The positions with `idx` at their end, unless it is there. -/
def addPosition (urls : List Nat) (idx : Nat) : List Nat :=
  if urls.getLast? = some idx then urls else urls ++ [idx]

/-- The list with one more model of the backend at position `idx`. -/
def mergeEntry (idx : Nat) (e : ModelEntry) : List ModelEntry → List ModelEntry
  | [] => [{ e with urls := [idx] }]
  | m :: rest =>
    if m.model = e.model then { m with urls := addPosition m.urls idx } :: rest
    else m :: mergeEntry idx e rest

/-- The list with the models of the backend at position `idx`, if it gave any. -/
def mergeList (merged : List ModelEntry) (idx : Nat) (list : Option (List ModelEntry)) :
    List ModelEntry :=
  (list.getD []).foldl (fun acc e => mergeEntry idx e acc) merged

/-- The list with the models of the backends from position `idx` on. -/
def mergeFrom (merged : List ModelEntry) (idx : Nat) :
    List (Option (List ModelEntry)) → List ModelEntry
  | [] => merged
  | list :: rest => mergeFrom (mergeList merged idx list) (idx + 1) rest

/-- One list of the models of all backends; a backend that gave nothing adds nothing. -/
def merge (lists : List (Option (List ModelEntry))) : List ModelEntry :=
  mergeFrom [] 0 lists

/-- The time until which a loaded model stays, if it is told in a way that can be read. -/
def expiry? (e : ModelEntry) : Option Int :=
  ((e.field? "expires_at").bind Json.string?).bind Timestamp.read?

/-- The time until which `model` stays, by the last loaded entry of that name that tells it. -/
def expiryOf? (loaded : List ModelEntry) (model : String) : Option Int :=
  loaded.reverse.findSome? fun e => if e.model = model then expiry? e else none

/-- The entry with the time until which it stays loaded, if that is known. -/
def annotateEntry (loaded : List ModelEntry) (e : ModelEntry) : ModelEntry :=
  match expiryOf? loaded e.model with
  | some time => e.setField "expires_at" (.int time)
  | none => e

/-- The entries with the times until which they stay loaded, as far as these are known. -/
def annotate (models loaded : List ModelEntry) : List ModelEntry :=
  models.map (annotateEntry loaded)

end ModelList
end RunnerGateway
