import Atari6502.Segment
import Atari6502.Settings.Fault

/-! Failures: what stops the program. -/
namespace Atari6502

/-- Why a file cannot be read. -/
inductive ReadFault where
  | notFound
  | notDirectory
  | isDirectory
  | nameTooLong
  /-- The path holds a zero byte. -/
  | zeroInPath
  /-- The content is not UTF-8. -/
  | notText
  | other (message : String)
deriving DecidableEq, Repr

def ReadFault.message : ReadFault → String
  | notFound => "No such file or directory (os error 2)"
  | notDirectory => "Not a directory (os error 20)"
  | isDirectory => "Is a directory (os error 21)"
  | nameTooLong => "File name too long (os error 36)"
  | zeroInPath => "file name contained an unexpected NUL byte"
  | notText => "stream did not contain valid UTF-8"
  | other message => message

/-- What stops the program. -/
inductive Failure where
  | unreadable (path : String) (fault : ReadFault)
  | noSegment (index count : Nat)
  | badSettings (fault : Settings.Fault)

namespace Failure

/-- The deeper reason, if there is one. -/
def cause? : Failure → Option String
  | unreadable _ fault => some fault.message
  | noSegment .. => none
  | badSettings fault => some fault.message

def message : Failure → String
  | unreadable path fault => s!"could not read '{path}': " ++ fault.message
  | noSegment index count => s!"segment {index} out of range ({count} segments loaded)"
  | badSettings fault => "invalid configuration: " ++ fault.message

end Failure

/-- The segment with number `index`, counted from zero. -/
def Segment.select (segments : List Segment) (index : Nat) : Except Failure Segment :=
  match segments[index]? with
  | some segment => .ok segment
  | none => .error (.noSegment index segments.length)

end Atari6502
