import RunnerGateway.Json.Basic
import RunnerGateway.Text.Blank

/-!
# Directories and files

A disk as far as the gateway touches it: directories that are made on the way to a file, log files,
and the file of a database.  A place is the list of the names on the way to it from the root, and a
path is walked name by name, so that nothing leads through a file.
-/

namespace RunnerGateway

/-- The content of a file, as far as it matters. -/
inductive Content
  | empty
  | database (settings : Dict String)
  | other
  deriving DecidableEq, Repr

/-- What stands at a place. -/
inductive Node
  | directory
  | file (content : Content)
  deriving DecidableEq, Repr

/-- Why a path cannot be followed or a directory not be made. -/
inductive DiskFault
  | missing
  | notDirectory
  | taken
  | longName
  | badName
  deriving DecidableEq, Repr

/-- The fault in words. -/
def DiskFault.message : DiskFault → String
  | .missing => "No such file or directory (os error 2)"
  | .notDirectory => "Not a directory (os error 20)"
  | .taken => "File exists (os error 17)"
  | .longName => "File name too long (os error 36)"
  | .badName => "file name contained an unexpected NUL byte"

/-- The names on the way from the root. -/
abbrev Place := List String

/-- A path as it is written: from the root or from the working directory.  A slash at its end asks
for a directory. -/
structure Path where
  absolute : Bool
  names : List String
  slashed : Bool
  deriving DecidableEq, Repr

namespace Path

/-- A piece of a path that leads nowhere else. -/
def stays (piece : List Char) : Bool :=
  piece = [] || piece = ['.']

/-- The path of a text. -/
def ofText (text : String) : Path :=
  let pieces := Text.pieces '/' text.toList
  { absolute := text.startsWith "/"
    names := (pieces.filter fun piece => !stays piece).map String.ofList
    slashed := (pieces.getLast?.map stays).getD false }

/-- The text of the directory that a path stands in, in which nothing is changed but its end;
nothing for the root. -/
def parent? (text : String) : Option String :=
  let trimmed := fun pieces => Text.dropEndWhile stays pieces
  let joined := fun pieces => List.intercalate ['/'] pieces
  match Text.pieces '/' text.toList with
  | [] :: pieces =>
    match trimmed pieces with
    | [] => none
    | pieces => some (String.ofList ('/' :: joined (trimmed pieces.dropLast)))
  | first :: pieces =>
    match trimmed pieces with
    | [] => some ""
    | pieces => some (String.ofList (joined (first :: trimmed pieces.dropLast)))
  | [] => none

end Path

/-- The nodes of a disk but for the root, and the place that relative paths begin at. -/
structure Disk where
  nodes : List (Place × Node) := []
  working : Place := []
  deriving DecidableEq, Repr

namespace Disk

/-- What stands at a place; the root is always a directory. -/
def node? (d : Disk) (place : Place) : Option Node :=
  if place = [] then some .directory else d.nodes.lookup place

/-- The disk with a node at a place, instead of the one that stood there. -/
def put (d : Disk) (place : Place) (node : Node) : Disk :=
  { d with nodes := (d.nodes.filter fun entry => entry.1 ≠ place) ++ [(place, node)] }

/-- One name further; two dots lead back, and the root leads back to itself. -/
def enter (place : Place) (name : String) : Place :=
  if name = ".." then place.dropLast else place ++ [name]

/-- The place that a path begins at. -/
def start (d : Disk) (path : Path) : Place :=
  if path.absolute then [] else d.working

/-- The fault of a name that no file can have. -/
def nameFault? (name : String) : Option DiskFault :=
  if name.toList.contains '\x00' then some .badName
  else if 255 < name.utf8ByteSize then some .longName
  else none

/-- The place that names lead to, through directories only. -/
def walk (d : Disk) (place : Place) : List String → Except DiskFault Place
  | [] => .ok place
  | name :: names =>
    match nameFault? name with
    | some fault => .error fault
    | none =>
      match d.node? place with
      | none => .error .missing
      | some (.file _) => .error .notDirectory
      | some .directory => d.walk (enter place name) names

/-- What stands where a path leads to. -/
def find? (d : Disk) (path : Path) : Option Node :=
  match d.walk (d.start path) path.names with
  | .error _ => none
  | .ok place =>
    match d.node? place with
    | some (.file content) => if path.slashed then none else some (.file content)
    | node => node

/-- The disk with all directories on the way.  Those made before a fault stay. -/
def makeDirectories (d : Disk) (place : Place) : List String → Disk × Except DiskFault Unit
  | [] => (d, .ok ())
  | name :: names =>
    match nameFault? name with
    | some fault => (d, .error fault)
    | none =>
      let next := enter place name
      match d.node? next with
      | some .directory => d.makeDirectories next names
      | some (.file _) => (d, .error (if names = [] then .taken else .notDirectory))
      | none => (d.put next .directory).makeDirectories next names

/-- The disk with the directory of a path and all those on the way to it.  A text with a NUL is no
path at all, and nothing is made for it. -/
def makeDirectory (d : Disk) (path : String) : Disk × Except DiskFault Unit :=
  if path.toList.contains '\x00' then (d, .error .badName)
  else
    let path := Path.ofText path
    d.makeDirectories (d.start path) path.names

/-- The place that a path leads to if its dots are taken by their text alone. -/
def placeOf (d : Disk) (path : String) : Place :=
  let path := Path.ofText path
  path.names.foldl enter (d.start path)

end Disk
end RunnerGateway
