import CameraTelemetry.Host.Reading
import CameraTelemetry.Paths

/-!
# The filesystem of a path

Of the mounted filesystems whose mount point contains a path, the path lies on the one with the
longest mount point.
-/
namespace CameraTelemetry.Host

def Filesystem.contains (f : Filesystem) (path : String) : Bool :=
  (pathSteps f.mountPoint).isPrefixOf (pathSteps path)

/-- The filesystem on which a path lies, out of those mounted. -/
def filesystemOf (mounted : List Filesystem) (path : String) : Except SourceFailure Filesystem :=
  match mounted.filter (·.contains path) with
  | [] => .error (.unavailable .filesystem path "no mounted filesystem contains this path")
  | first :: rest => .ok <| rest.foldl
      (fun best f => if f.mountPoint.utf8ByteSize < best.mountPoint.utf8ByteSize then best else f)
        first

end CameraTelemetry.Host
