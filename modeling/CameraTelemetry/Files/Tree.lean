import CameraTelemetry.Files

/-!
# Reading in a tree of files

What a path leads to in a known tree: its names are followed from the root or from the working
directory, and the first that cannot be followed decides the fault. The root, the working directory
and what is above it are always there.
-/
namespace CameraTelemetry

inductive FileNode
  | directory
  | file (contents : ByteArray)

structure FileTree where
  /-- The nodes below the root and the working directory, each with the names that lead to it behind
  `/` or `.`. -/
  nodes : List (List String × FileNode)

namespace FileTree

/-- The length in bytes from which a path is refused as a whole. -/
def pathLimit : Nat := 4096

def nameLimit : Nat := 255

def above : List String → List String
  | ["."] => [".."]
  | [top] => [top]
  | names => names.dropLast

/-- The text to which names lead from a directory. An empty name, as before a doubled slash and
after the last one, stays where it is. -/
def follow (tree : FileTree) (here : List String) : List String → FileText
  | [] => .error .isDirectory
  | name :: rest =>
    if name = "" ∨ name = "." then follow tree here rest
    else if name = ".." then follow tree (above here) rest
    else if nameLimit < name.utf8ByteSize then .error .nameTooLong
    else match tree.nodes.lookup (here ++ [name]) with
      | none => .error .notFound
      | some .directory => follow tree (here ++ [name]) rest
      | some (.file contents) =>
        if rest.isEmpty then .ofBytes contents else .error .notDirectory

def read (tree : FileTree) (path : String) : FileText :=
  if path.contains '\x00' then .error .nulInName
  else if path.isEmpty then .error .notFound
  else if pathLimit ≤ path.utf8ByteSize then .error .nameTooLong
  else follow tree (if path.startsWith "/" then ["/"] else ["."]) (path.splitOn "/")

end FileTree

end CameraTelemetry
