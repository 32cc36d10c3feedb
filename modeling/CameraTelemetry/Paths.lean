/-!
# Paths

A path falls into steps: the root if it starts there, then its names. A dot at the start of a
relative path is a step of its own; other dots, doubled slashes and a slash at the end are not.
-/
namespace CameraTelemetry

def pathSteps (path : String) : List String :=
  let names := path.splitOn "/"
  let kept := names.filter fun s => s ≠ "" ∧ s ≠ "."
  if path.startsWith "/" then "/" :: kept
  else if names.head? = some "." then "." :: kept
  else kept

/-- The path of a name inside a directory; a name that starts at the root stands by itself. -/
def joinPath (directory name : String) : String :=
  if name.startsWith "/" then name
  else if directory.isEmpty || directory.endsWith "/" then directory ++ name
  else directory ++ "/" ++ name

end CameraTelemetry
