import Atari6502.CommandLine.Step
import Atari6502.CommandLine.Parse
import Atari6502.Directory
import Atari6502.HexDump
import Atari6502.Listing
import Atari6502.Load.Log
import Atari6502.Settings.Schema
import Atari6502.Tally.Report

/-! Running a command line: a pure function of the arguments, of the files and of the tools that read
and write texts. -/
namespace Atari6502.CommandLine

/-- What a run leaves behind. -/
structure Outcome where
  exitCode : Nat
  events : List Event := []
  /-- What is said beside the log. -/
  message : Option String := none
  output : String := ""

namespace Outcome

/-- What the whole of a run leaves behind. -/
def ofStep (step : Step Unit) : Outcome where
  exitCode := if step.result.isOk then 0 else 1
  events := step.events
  message := match step.result with
    | .ok () => none
    | .error complaint => some ("[!] " ++ complaint.message)
  output := step.output

def usage (error : UsageError) : Outcome where
  exitCode := 2
  message := some error.message

/-- The events that are at least as grave as `level`. -/
def shown (outcome : Outcome) (level : Option Level) : List Event :=
  outcome.events.filter fun event => level.any fun level => event.level.rank ≤ level.rank

/-- The lines of the message. Of a usage error the first one says it all. -/
def messageLines (outcome : Outcome) : List String :=
  match outcome.message with
  | none => []
  | some message =>
    let lines := Text.splitLines message
    if outcome.exitCode = 2 then lines.take 1 else lines

/-- The log: the line that each event begins with. -/
def log (outcome : Outcome) (level : Option Level) : List String :=
  (outcome.shown level).flatMap fun event => event.lines.take 1

/-- The lines that do not begin an event: those of an event whose text holds a line feed, and those of
the message. -/
def remarks (outcome : Outcome) (level : Option Level) : List String :=
  ((outcome.shown level).flatMap fun event => event.lines.drop 1) ++ outcome.messageLines

end Outcome

/-- What reads and writes the texts of a run. -/
structure Tools where
  parse : List String → Except UsageError Request
  /-- The format of settings documents. -/
  format : Settings.Format
  /-- Writes JSON with one item to a line. -/
  serialize : Json → Except String String

def Tools.standard : Tools where
  parse := CommandLine.parse
  format := .json
  serialize json := .ok json.pretty

/-- Prints JSON with one item to a line. -/
def Tools.printJson (tools : Tools) (json : Json) : Step Unit :=
  match tools.serialize json with
  | .ok text => .println text
  | .error reason => .fail { reasons := [reason] }

/-- Loads a file. -/
def load (read : FileReader) (settings : Settings) (file : String) : Step Load.Report := do
  let data ← .ofExcept (read.binary file)
  Step.log (.fileRead file data.length)
  let report ← .ofLogged (Load.load settings.fallbackAddress data)
  if report.isRaw then
    Step.log (.rawImage settings.fallbackAddress)
  return report

/-- Loads a file and selects one of its segments. -/
def loadSegment (read : FileReader) (settings : Settings) (file : String) (index : Nat) :
    Step Segment := do
  let report ← load read settings file
  .ofExcept (Segment.select report.segments index)

/-- Loads a file and prints what the task is about. -/
def Task.run (task : Task) (tools : Tools) (read : FileReader) (settings : Settings)
    (file : String) : Step Unit :=
  match task with
  | .segments json => do
    let report ← load read settings file
    if json then
      tools.printJson (.arr (report.segments.map Segment.toJson))
    else
      Step.println s!"{file}: {report.segments.length} segments found"
      report.segments.zipIdx.forM fun (segment, index) =>
        Step.println ("  " ++ segment.label index ++ s!"  ({segment.size} bytes)")
  | .disassembly index bytes json => do
    let segment ← loadSegment read settings file index
    let entries ← .ofLogged segment.disassemble
    if json then
      tools.printJson (.arr (entries.map Instruction.toJson))
    else if bytes || settings.showBytes then
      Step.println (table entries)
    else
      Step.println (listing entries)
  | .hexDump index width => do
    let segment ← loadSegment read settings file index
    Step.println
      (Atari6502.hexDump segment.data segment.start (width.getD settings.hexWidth))
  | .excerpt index limit => do
    let segment ← loadSegment read settings file index
    let entries ← .ofLogged segment.disassemble
    Step.println (Atari6502.excerpt entries (limit.getD settings.excerptLimit))
  | .tally index json => do
    let segment ← loadSegment read settings file index
    let tally := Tally.ofInstructions (← .ofLogged segment.disassemble)
    if json then
      tools.printJson tally.toJson
    else
      Step.println (segment.label index)
      Step.println tally.report

/-- The settings of a run. -/
def Invocation.loadSettings (invocation : Invocation) (format : Settings.Format)
    (read : FileReader) : Step Settings where
  result := match invocation.settings with
    | none => .ok {}
    | some path => (read.settings format path).mapError fun failure =>
      (Complaint.ofFailure failure).within s!"loading configuration {path}"

def Invocation.run (invocation : Invocation) (tools : Tools) (read : FileReader) : Step Unit := do
  let settings ← invocation.loadSettings tools.format read
  Step.log (.configured settings)
  invocation.task.run tools read settings invocation.file

def Request.run (request : Request) (tools : Tools) (read : FileReader) : Step Unit :=
  match request with
  | .help => .println description
  | .version => .println s!"{programName} {CommandLine.version}"
  | .perform invocation => invocation.run tools read

/-- Runs the program. -/
def run (tools : Tools) (args : List String) (read : FileReader) : Outcome :=
  match tools.parse args with
  | .error error => .usage error
  | .ok request => .ofStep (request.run tools read)

end Atari6502.CommandLine
