import Atari6502.Failure
import Atari6502.Settings.Document

/-! A directory of files, and how paths lead through it. -/
namespace Atari6502

/-- Named files in one directory. The directories around it are taken to be empty. -/
structure Directory where
  files : List (String × Bytes)

namespace Directory

/-- Where a path has led so far. -/
inductive Place where
  | inside
  | outside
  | file (content : Bytes)

/-- The bytes of the longest name. -/
def maxName : Nat := 255

/-- The bytes of the longest path. -/
def maxPath : Nat := 4095

/-- The fault of a name that is not in a directory. -/
def missing (name : String) : ReadFault :=
  if maxName < name.utf8ByteSize then .nameTooLong else .notFound

/-- Follows one step of a path. -/
def follow (directory : Directory) (place : Place) (step : String) : Except ReadFault Place :=
  match place with
  | .file _ => .error .notDirectory
  | .outside => if step ∈ ["", ".", ".."] then .ok .outside else .error (missing step)
  | .inside =>
    if step ∈ ["", "."] then .ok .inside
    else if step = ".." then .ok .outside
    else
      match directory.files.lookup step with
      | some content => .ok (.file content)
      | none => .error (missing step)

/-- The content of the file that a path leads to. -/
def read (directory : Directory) (path : String) : Except ReadFault Bytes :=
  if '\x00' ∈ path.toList then .error .zeroInPath
  else if path.isEmpty then .error .notFound
  else if maxPath < path.utf8ByteSize then .error .nameTooLong
  else do
    let start := if path.startsWith "/" then Place.outside else Place.inside
    match ← (path.splitOn "/").foldlM directory.follow start with
    | .file content => return content
    | .inside | .outside => .error .isDirectory

end Directory

/-- Access to files: the content at a path. -/
abbrev FileReader := String → Except ReadFault Bytes

/-- Reads a binary file. -/
def FileReader.binary (read : FileReader) (path : String) : Except Failure Bytes :=
  (read path).mapError (.unreadable path)

/-- Reads a settings document. -/
def FileReader.settings (read : FileReader) (format : Settings.Format) (path : String) :
    Except Failure Settings := do
  let content ← read.binary path
  match content.toString? with
  | none => .error (.unreadable path .notText)
  | some document => (Settings.parse format document).mapError .badSettings

end Atari6502
