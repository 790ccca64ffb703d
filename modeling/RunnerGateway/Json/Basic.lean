import RunnerGateway.Double
import RunnerGateway.Text.Numeral

/-!
# JSON values

A value keeps its integers exact from `-2 ^ 63` to `2 ^ 64 - 1`; every other number is a double.
An object is a list of members in ascending order of their keys, each key once, so that equal
objects are equal lists.  `Dict` holds the operations that keep this order, and `Json.WellFormed`
says that a value keeps it throughout.
-/

namespace RunnerGateway

/-- A finite map from texts, as pairs in ascending order of their keys. -/
abbrev Dict (α : Type) := List (String × α)

namespace Dict

/-- The keys, in order. -/
def keys (d : Dict α) : List String :=
  d.map Prod.fst

/-- The keys ascend strictly. -/
def Sorted (d : Dict α) : Prop :=
  d.keys.Pairwise (· < ·)

/-- The value under `key`. -/
def get? (d : Dict α) (key : String) : Option α :=
  List.lookup key d

/-- The map with `value` under `key`, in place of any former value. -/
def insert (d : Dict α) (key : String) (value : α) : Dict α :=
  match d with
  | [] => [(key, value)]
  | (k, v) :: rest =>
    if key < k then (key, value) :: (k, v) :: rest
    else if key = k then (key, value) :: rest
    else (k, v) :: Dict.insert rest key value

/-- The map without `key`. -/
def erase (d : Dict α) (key : String) : Dict α :=
  d.filter fun p => p.1 ≠ key

/-- The map of a list of pairs; of two pairs with one key the later one counts. -/
def ofList (pairs : List (String × α)) : Dict α :=
  pairs.foldl (fun d p => Dict.insert d p.1 p.2) []

end Dict

/-- A JSON value. -/
inductive Json
  | null
  | bool (b : Bool)
  | int (n : Int)
  | float (x : Double)
  | str (s : String)
  | arr (items : List Json)
  | obj (members : List (String × Json))
  deriving Inhabited

namespace Json

/-- The members of an object. -/
def object? : Json → Option (Dict Json)
  | .obj members => some members
  | _ => none

/-- The items of an array. -/
def array? : Json → Option (List Json)
  | .arr items => some items
  | _ => none

/-- The text of a string. -/
def string? : Json → Option String
  | .str s => some s
  | _ => none

/-- The truth value of a boolean. -/
def bool? : Json → Option Bool
  | .bool b => some b
  | _ => none

/-- The natural number of a non-negative integer. -/
def nat? : Json → Option Nat
  | .int (.ofNat n) => some n
  | _ => none

/-- The value is `null`. -/
def isNull : Json → Bool
  | .null => true
  | _ => false

/-- The member of an object under `key`. -/
def field? (v : Json) (key : String) : Option Json :=
  v.object?.bind fun members => Dict.get? members key

/-- An object of the given members. -/
def ofMembers (members : List (String × Json)) : Json :=
  .obj (Dict.ofList members)

/-- An array of strings. -/
def ofStrings (items : List String) : Json :=
  .arr (items.map .str)

/-- A natural number as a value. -/
def ofNat (n : Nat) : Json :=
  .int (n : Int)

mutual

/-- Integers are in range, floating-point numbers are finite, and the keys of every object ascend
strictly. -/
def WellFormed : Json → Prop
  | .null => True
  | .bool _ => True
  | .int n => -(Text.maxSigned : Int) - 1 ≤ n ∧ n ≤ (Text.maxWord : Int)
  | .float x => x.isFinite = true
  | .str _ => True
  | .arr items => WellFormedItems items
  | .obj members => Dict.Sorted members ∧ WellFormedMembers members

/-- Every item is well formed. -/
def WellFormedItems : List Json → Prop
  | [] => True
  | v :: vs => WellFormed v ∧ WellFormedItems vs

/-- Every member's value is well formed. -/
def WellFormedMembers : List (String × Json) → Prop
  | [] => True
  | (_, v) :: rest => WellFormed v ∧ WellFormedMembers rest

end

end Json
end RunnerGateway
