import RunnerGateway.Disk

/-!
# Log files

Messages always go to the terminal.  If there is a directory for log files, it is made, and a file
for the day is opened in it.
-/

namespace RunnerGateway
namespace Log

/-- The name of the log file of a day. -/
def fileName (day : String) : String :=
  "dmr-gateway.log." ++ day

/-- The disk after the start of logging, and the log file if there is one. -/
def start (disk : Disk) (directory : Option String) (day : String) :
    Disk × Except DiskFault (Option Place) :=
  match directory with
  | none => (disk, .ok none)
  | some directory =>
    match disk.makeDirectory directory with
    | (disk, .error fault) => (disk, .error fault)
    | (disk, .ok ()) =>
      let file := disk.placeOf directory ++ [fileName day]
      (if disk.node? file = none then disk.put file (.file .other) else disk, .ok (some file))

end Log
end RunnerGateway
