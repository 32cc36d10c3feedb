/-!
# Files as they are read

What reading a file as text yields: its text, or the reason why there is none.
-/
namespace CameraTelemetry

inductive FileFault
  | notFound
  | isDirectory
  /-- A step of the path leads below a file. -/
  | notDirectory
  | nameTooLong
  /-- The path holds a character that ends it for the system. -/
  | nulInName
  | notText
  | other (reason : String)
deriving DecidableEq, Repr

def FileFault.message : FileFault → String
  | notFound => "No such file or directory (os error 2)"
  | isDirectory => "Is a directory (os error 21)"
  | notDirectory => "Not a directory (os error 20)"
  | nameTooLong => "File name too long (os error 36)"
  | nulInName => "file name contained an unexpected NUL byte"
  | notText => "stream did not contain valid UTF-8"
  | other reason => reason

abbrev FileText := Except FileFault String

def FileText.ofBytes (bytes : ByteArray) : FileText :=
  match String.fromUTF8? bytes with
  | some text => .ok text
  | none => .error .notText

end CameraTelemetry
