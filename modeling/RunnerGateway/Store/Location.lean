import RunnerGateway.Disk
import RunnerGateway.Text.Quoted
import RunnerGateway.Url.Percent

/-!
# The location of a database

A database is named by a URL: after the scheme `sqlite:` comes the path of a file, and after a `?`
come parameters that say how the file is opened.  The path may have percent escapes.

Two readings of such a URL are kept apart.  `directoryOf?` is the directory that is made before the
database is opened, and `Location.ofUrl` is what is then opened.
-/

namespace RunnerGateway
namespace Store

/-- What follows `start` in `cs` once it has been taken off as often as it stands there. -/
def afterAll (start cs : List Char) : List Char :=
  if start = [] then cs
  else
    match Text.after? start cs with
    | some rest => if rest.length < cs.length then afterAll start rest else cs
    | none => cs
  termination_by cs.length

/-- The path of a URL with the scheme `sqlite:`, as it is written there; nothing if the database
has no file. -/
def pathOf? (url : String) : Option String :=
  match Text.after? "sqlite:".toList url.toList with
  | none => none
  | some rest =>
    let rest := (Text.after? "//".toList rest).getD rest
    let path := rest.takeWhile fun c => c ≠ '?'
    if path = [] ∨ (Text.after? ":memory:".toList path).isSome then none
    else some (String.ofList path)

/-- The directory of the file of a URL, unless it is the working directory. -/
def directoryOf? (url : String) : Option String :=
  ((pathOf? url).bind Path.parent?).filter fun directory => directory ≠ ""

/-- How a database is opened. -/
structure Location where
  name : String
  inMemory : Bool := false
  readOnly : Bool := false
  immutable : Bool := false
  engine : Option String := none
  deriving DecidableEq, Repr

/-- Why a URL names no database. -/
inductive LocationFault
  | notText
  | badValue (parameter value : String)
  | badParameter (parameter : String)
  deriving DecidableEq, Repr

/-- The fault in words. -/
def LocationFault.message : LocationFault → String
  | .notText => "error with configuration: invalid utf-8 sequence"
  | .badValue parameter value =>
    "error with configuration: unknown value " ++ Text.quoted value ++ " for `" ++ parameter ++ "`"
  | .badParameter parameter =>
    "error with configuration: unknown query parameter `" ++ parameter ++
      "` while parsing connection URL"

namespace Location

/-- The name of a database that lives in memory alone. -/
def memoryName : String := ":memory:"

/-- A part of a query without escapes, in which a plus sign stands for a blank. -/
def queryText (cs : List Char) : String :=
  let bytes := (String.ofList cs).toUTF8.toList.map fun b => if b = 0x2B then 0x20 else b
  let bytes := Url.percentDecode bytes
  (String.fromUTF8? bytes.toByteArray).getD
    (String.ofList (bytes.map fun b => Char.ofNat b.toNat))

/-- The names and values of a query. -/
def parameters (query : List Char) : List (String × String) :=
  ((Text.pieces '&' query).filter fun piece => piece ≠ []).map fun piece =>
    (queryText (piece.takeWhile fun c => c ≠ '='),
      queryText ((piece.dropWhile fun c => c ≠ '=').drop 1))

/-- The location after one parameter. -/
def adjust (l : Location) : String × String → Except LocationFault Location
  | ("mode", "ro") => .ok { l with readOnly := true }
  | ("mode", "rw") => .ok l
  | ("mode", "rwc") => .ok l
  | ("mode", "memory") => .ok { l with inMemory := true }
  | ("cache", "private") => .ok l
  | ("cache", "shared") => .ok l
  | ("immutable", "true") => .ok { l with immutable := true }
  | ("immutable", "1") => .ok { l with immutable := true }
  | ("immutable", "false") => .ok { l with immutable := false }
  | ("immutable", "0") => .ok { l with immutable := false }
  | ("vfs", value) => .ok { l with engine := some value }
  | (parameter, value) =>
    if parameter = "mode" ∨ parameter = "cache" ∨ parameter = "immutable" then
      .error (.badValue parameter value)
    else .error (.badParameter parameter)

/-- The file of a path without its escapes. -/
def ofPath (path : List Char) : Except LocationFault Location :=
  if path = memoryName.toList then .ok { name := memoryName, inMemory := true }
  else
    match String.fromUTF8?
        (Url.percentDecode (String.ofList path).toUTF8.toList).toByteArray with
    | some name => .ok { name := name }
    | none => .error .notText

/-- The location that a URL names. -/
def ofUrl (url : String) : Except LocationFault Location := do
  let rest := afterAll "//".toList (afterAll "sqlite:".toList url.toList)
  let l ← ofPath (rest.takeWhile fun c => c ≠ '?')
  (parameters ((rest.dropWhile fun c => c ≠ '?').drop 1)).foldlM adjust l

end Location
end Store
end RunnerGateway
