import RunnerGateway.Json.Basic
import RunnerGateway.Json.Fault

/-!
# Shapes of JSON values

A shape says which values are wanted in one place: a kind of scalar, a list or dictionary of a
shape, or a record with named fields.  Records refer to each other by names of a type `ρ`, whose
fields a `Schema` gives, so that shapes are plain finite trees.

`Schema.decode` holds a value against a shape.  It gives the value back in canonical form: a record
as an object with only the members that count, a tag without its extra members.  Values stay as
they are otherwise, so that what is decoded can be printed again without loss.
-/

namespace RunnerGateway
namespace Json

/-- Whether a field may be missing, and whether it may be `null` as well. -/
inductive Presence
  | required
  | defaulted
  | optional
  deriving DecidableEq, Repr

/-- Which values are wanted. -/
inductive Shape (ρ : Type)
  | any
  | bool
  | string
  | index
  | tag
  | list (item : Shape ρ)
  | dict (item : Shape ρ)
  | record (name : ρ)

/-- A named field of a record. -/
structure Field (ρ : Type) where
  name : String
  presence : Presence
  shape : Shape ρ

/-- What happens to the members of a record that are no fields. -/
inductive Rest
  | kept
  | ignored
  deriving DecidableEq, Repr

/-- The records of a family of shapes: what each is called, its fields in the order in which a
missing one is reported, and what happens to other members. -/
structure Schema (ρ : Type) where
  title : ρ → String
  fields : ρ → List (Field ρ)
  rest : ρ → Rest

/-- The kind of a value, as it is told when another kind was wanted. -/
def found : Json → Found
  | .null => .null
  | .bool b => .bool b
  | .int n => .integer n
  | .float x => .number x
  | .str s => .string s
  | .arr _ => .sequence
  | .obj _ => .map

/-- What a tag is called where a value is none. -/
def tagTitle : String := "Tag"

/-- The tag that a value is: a string, or an object whose `name` is one. -/
def tagOf? : Json → Option Json
  | .str s => some (.str s)
  | .obj members =>
    match Dict.get? members "name" with
    | some (.str s) => some (.obj [("name", .str s)])
    | _ => none
  | _ => none

/-- The words for a record where something else was found. -/
def Schema.expected (σ : Schema ρ) (r : ρ) : String :=
  "struct " ++ σ.title r

/-- The words for a record that a list has too few items for. -/
def Schema.expectedItems (σ : Schema ρ) (r : ρ) : String :=
  let count := (σ.fields r).length
  σ.expected r ++ " with " ++ Text.numeral count ++ (if count = 1 then " element" else " elements")

/-- The field called `name`. -/
def Schema.field? (σ : Schema ρ) (r : ρ) (name : String) : Option (Field ρ) :=
  (σ.fields r).find? fun f => f.name = name

/-- The first field that has to be present and is not among `present`. -/
def Schema.missing? (σ : Schema ρ) (r : ρ) (present : List String) : Option String :=
  ((σ.fields r).find? fun f => f.presence = .required && !present.contains f.name).map Field.name

/-- What a list is refused for that ends before the field at position `index`. -/
def Schema.shortage? (σ : Schema ρ) (r : ρ) (index : Nat) : List (Field ρ) → Option Cause
  | [] => none
  | f :: fs =>
    if f.presence = .required then some (.invalidLength index (σ.expectedItems r))
    else σ.shortage? r (index + 1) fs

/-- What a value of the wrong kind is refused for. -/
def Schema.refusal (σ : Schema ρ) (v : Json) : Shape ρ → Cause
  | .any | .tag => .noVariant tagTitle
  | .bool => .invalidType v.found "a boolean"
  | .string => .invalidType v.found "a string"
  | .index =>
    match v with
    | .int n => .invalidValue (.integer n) "usize"
    | v => .invalidType v.found "usize"
  | .list _ => .invalidType v.found "a sequence"
  | .dict _ => .invalidType v.found "a map"
  | .record r => .invalidType v.found (σ.expected r)

/-- The value under an optional field may be `null`. -/
def Field.isAbsent (f : Field ρ) (v : Json) : Bool :=
  f.presence = .optional && v.isNull

mutual

/-- Holds a value against a shape. -/
def Schema.decode (σ : Schema ρ) (shape : Shape ρ) (v : Json) : Except Cause Json :=
  match v, shape with
  | v, .any => .ok v
  | .bool b, .bool => .ok (.bool b)
  | .str s, .string => .ok (.str s)
  | .int (.ofNat n), .index => .ok (.int n)
  | .arr items, .list item => (σ.decodeItems item items).map .arr
  | .obj members, .dict item => (σ.decodeMembers item members).map .obj
  | .obj members, .record r =>
    match σ.decodeFields r members with
    | .error cause => .error cause
    | .ok fields =>
      match σ.missing? r (Dict.keys members) with
      | some name => .error (.missingField name)
      | none => .ok (.obj fields)
  | .arr items, .record r =>
    match σ.rest r with
    | .kept => .error (σ.refusal (.arr items) (.record r))
    | .ignored => (σ.decodePositions r items.length 0 (σ.fields r) items).map .obj
  | v, .tag =>
    match tagOf? v with
    | some tag => .ok tag
    | none => .error (σ.refusal v .tag)
  | v, shape => .error (σ.refusal v shape)

/-- Holds every item of a list against one shape. -/
def Schema.decodeItems (σ : Schema ρ) (item : Shape ρ) :
    List Json → Except Cause (List Json)
  | [] => .ok []
  | v :: rest =>
    match σ.decode item v with
    | .error cause => .error cause
    | .ok v => (σ.decodeItems item rest).map (v :: ·)

/-- Holds every member of a dictionary against one shape. -/
def Schema.decodeMembers (σ : Schema ρ) (item : Shape ρ) :
    List (String × Json) → Except Cause (List (String × Json))
  | [] => .ok []
  | (k, v) :: rest =>
    match σ.decode item v with
    | .error cause => .error cause
    | .ok v => (σ.decodeMembers item rest).map ((k, v) :: ·)

/-- Holds the members of an object against the fields of a record, in the order of the members. -/
def Schema.decodeFields (σ : Schema ρ) (r : ρ) :
    List (String × Json) → Except Cause (List (String × Json))
  | [] => .ok []
  | (k, v) :: rest =>
    match σ.field? r k with
    | none =>
      match σ.rest r with
      | .kept => (σ.decodeFields r rest).map ((k, v) :: ·)
      | .ignored => σ.decodeFields r rest
    | some f =>
      if f.isAbsent v then
        (σ.decodeFields r rest).map ((k, v) :: ·)
      else
        match σ.decode f.shape v with
        | .error cause => .error cause
        | .ok v => (σ.decodeFields r rest).map ((k, v) :: ·)

/-- Holds the items of a list of `length` items against the fields of a record by position. -/
def Schema.decodePositions (σ : Schema ρ) (r : ρ) (length : Nat) (index : Nat)
    (fields : List (Field ρ)) : List Json → Except Cause (List (String × Json))
  | [] =>
    match σ.shortage? r index fields with
    | some cause => .error cause
    | none => .ok []
  | v :: rest =>
    match fields with
    | [] => .error (.invalidLength length "fewer elements in array")
    | f :: fields =>
      if f.isAbsent v then
        (σ.decodePositions r length (index + 1) fields rest).map (Dict.insert · f.name v)
      else
        match σ.decode f.shape v with
        | .error cause => .error cause
        | .ok v =>
          (σ.decodePositions r length (index + 1) fields rest).map (Dict.insert · f.name v)

end

end Json
end RunnerGateway
