import RunnerGateway.Error
import RunnerGateway.Store
import RunnerGateway.Store.Location

/-!
# Opening a database

A database is opened at the start of the gateway: the directory of its file is made, the file is
created if there is none, and the table of settings is set up in it.  What was made before a fault
stays on the disk.
-/

namespace RunnerGateway
namespace Store

/-- Why a database cannot be used. -/
inductive OpenFault
  | badName
  | cannotOpen
  | noSuchEngine (engine : String)
  | noDatabase
  | readOnly
  deriving DecidableEq, Repr

/-- The fault in words. -/
def OpenFault.message : OpenFault → String
  | .badName =>
    "error communicating with database: filename passed to SQLite must not contain nul bytes"
  | .cannotOpen => "error returned from database: (code: 14) unable to open database file"
  | .noSuchEngine engine => "error returned from database: (code: 1) no such vfs: " ++ engine
  | .noDatabase => "error returned from database: (code: 26) file is not a database"
  | .readOnly =>
    "while executing migrations: error returned from database: (code: 8) attempt to write a " ++
      "readonly database"

/-- The engines for files that there are. -/
def engines : List String := ["unix", "unix-none", "unix-dotfile", "unix-excl"]

/-- What is open: a file of the disk, or memory. -/
inductive Opened
  | file (place : Place)
  | memory
  deriving DecidableEq, Repr

/-- The disk and what is open on it, after a file was created if that was wished. -/
def openAt (d : Disk) (l : Location) (create : Bool) : Except OpenFault (Disk × Opened) :=
  if !l.inMemory && l.name.toList.contains '\x00' then .error .badName
  else
    match l.engine.filter fun engine => !engines.contains engine with
    | some engine => .error (.noSuchEngine engine)
    | none =>
      if l.inMemory ∨ l.name = "" ∨ l.name = Location.memoryName then .ok (d, .memory)
      else
        let place := d.placeOf l.name
        match d.node? place with
        | some .directory => .error .cannotOpen
        | some (.file _) => .ok (d, .file place)
        | none =>
          if create ∧ !l.readOnly ∧ d.node? place.dropLast = some .directory ∧
              place.getLast?.bind Disk.nameFault? = none then
            .ok (d.put place (.file .empty), .file place)
          else .error .cannotOpen

/-- The disk after a database was created where there was none. -/
def create (d : Disk) (l : Location) : Except OpenFault Disk :=
  match openAt d l true with
  | .error fault => .error fault
  | .ok (d, .memory) => .ok d
  | .ok (d, .file place) =>
    if d.node? place = some (.file .other) then .error .noDatabase else .ok d

/-- The disk with the table of settings in what is open, and the settings in it. -/
def migrate (d : Disk) (l : Location) : Opened → Except OpenFault (Disk × Dict String)
  | .memory => .ok (d, [])
  | .file place =>
    match d.node? place with
    | some (.file (.database settings)) => .ok (d, settings)
    | some (.file .empty) =>
      if l.readOnly || l.immutable then .error .readOnly
      else .ok (d.put place (.file (.database [])), [])
    | _ => .error .noDatabase

/-- An open store, and where it keeps its settings. -/
structure Session where
  store : Store
  origin : Opened
  deriving DecidableEq, Repr

/-- The disk after the directory of the file was made, if there is one to make. -/
def prepare (d : Disk) (url : String) : Disk × Except GatewayError Unit :=
  match directoryOf? url with
  | none => (d, .ok ())
  | some directory =>
    match d.makeDirectory directory with
    | (d, .ok ()) => (d, .ok ())
    | (d, .error fault) =>
      (d, .error (.database
        ("Failed to create database directory " ++ directory ++ ": " ++ fault.message)))

/-- The disk with the database of a location, which is created if it does not exist. -/
def ensure (d : Disk) (l : Location) : Except GatewayError Disk :=
  if l.inMemory || (d.find? (Path.ofText l.name)).isSome then .ok d
  else (create d l).mapError fun fault => .database ("Failed to create database: " ++ fault.message)

/-- The disk and the store after a database was opened. -/
def openUrl (d : Disk) (url : String) : Disk × Except GatewayError Session :=
  match prepare d url with
  | (d, .error e) => (d, .error e)
  | (d, .ok ()) =>
    match Location.ofUrl url with
    | .error fault => (d, .error (.database ("Failed to check database: " ++ fault.message)))
    | .ok l =>
      match ensure d l with
      | .error e => (d, .error e)
      | .ok d =>
        match openAt d l false with
        | .error fault =>
          (d, .error (.database ("Failed to connect to database: " ++ fault.message)))
        | .ok (d, opened) =>
          match migrate d l opened with
          | .error fault =>
            (d, .error (.database ("Failed to run migrations: " ++ fault.message)))
          | .ok (d, settings) => (d, .ok { store := { settings }, origin := opened })

/-- The disk after the settings of a store were written to where they came from. -/
def Session.save (s : Session) (d : Disk) : Disk :=
  match s.origin with
  | .memory => d
  | .file place => d.put place (.file (.database s.store.settings))

end Store
end RunnerGateway
