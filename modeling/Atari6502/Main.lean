import Atari6502.CommandLine.Run

/-! The program: reads the files that its arguments name, and prints what the run leaves behind. -/
namespace Atari6502

/-- The number of an operating system's error, which may come negated. -/
def osNumber (code : UInt32) : UInt32 :=
  if code < 0x80000000 then code else 0 - code

/-- What kept a file on disk from being read. -/
def ReadFault.ofError : IO.Error → ReadFault
  | .noFileOrDirectory .. => .notFound
  | .inappropriateType _ code _ => if osNumber code = 21 then .isDirectory else .notDirectory
  | .invalidArgument _ code details =>
    if osNumber code = 36 then .nameTooLong else .other s!"{details} (os error {osNumber code})"
  | .permissionDenied _ code details => .other s!"{details} (os error {osNumber code})"
  | error => .other (toString error)

/-- The content of a file on disk. -/
def fetch (path : String) : IO (Except ReadFault Bytes) := do
  try
    return .ok (← IO.FS.readBinFile path).toList
  catch error =>
    return .error (.ofError error)

/-- The files that a command line names. -/
def CommandLine.Request.paths : CommandLine.Request → List String
  | .perform invocation => invocation.settings.toList ++ [invocation.file]
  | .help | .version => []

end Atari6502

open Atari6502 in
def main (args : List String) : IO UInt32 := do
  let tools := CommandLine.Tools.standard
  let paths := match tools.parse args with
    | .ok request => request.paths
    | .error _ => []
  let files ← paths.mapM fun path => return (path, ← fetch path)
  let outcome := CommandLine.run tools args fun path => (files.lookup path).getD (.error .notFound)
  let level := ((← IO.getEnv "RUST_LOG").bind Level.ofName?).getD (some .warn)
  for line in (outcome.shown level).map Event.line ++ outcome.message.toList do
    IO.eprintln line
  IO.print outcome.output
  return UInt32.ofNat outcome.exitCode
