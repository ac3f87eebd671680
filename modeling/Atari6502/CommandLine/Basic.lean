import Atari6502.Text.Control

/-! What the command line can ask for, and what can be wrong with it. -/
namespace Atari6502.CommandLine

/-- The name of the program. -/
def programName : String := "xexray"

def version : String := "0.3.0"

def description : String := "Atari XEX segment loader and 6502 disassembler"

/-- What to print about a file. -/
inductive Task where
  | segments (json : Bool)
  | disassembly (segment : Nat) (bytes json : Bool)
  | hexDump (segment : Nat) (width : Option Nat)
  | excerpt (segment : Nat) (limit : Option Nat)
  | tally (segment : Nat) (json : Bool)
deriving DecidableEq, Repr

/-- A task on a file, with the path of a settings document. -/
structure Invocation where
  settings : Option String
  file : String
  task : Task
deriving DecidableEq, Repr

/-- What the program is asked for. -/
inductive Request where
  | help
  | version
  | perform (invocation : Invocation)
deriving DecidableEq, Repr

/-- Arguments that have a value. -/
inductive Slot where
  | config
  | file
  | segment
  | width
  | limit
deriving DecidableEq, Repr

def Slot.name : Slot → String
  | config => "--config <CONFIG>"
  | file => "<FILE>"
  | segment => "--segment <SEGMENT>"
  | width => "--width <WIDTH>"
  | limit => "--limit <LIMIT>"

/-- Arguments that are given or not. -/
inductive Flag where
  | json
  | bytes
deriving DecidableEq, Repr

def Flag.name : Flag → String
  | json => "--json"
  | bytes => "--bytes"

/-- Why a text is no count. -/
inductive CountFault where
  | empty
  | badDigit
  | tooLarge
deriving DecidableEq, Repr

def CountFault.message : CountFault → String
  | empty => "cannot parse integer from empty string"
  | badDigit => "invalid digit found in string"
  | tooLarge => "number too large to fit in target type"

/-- What can be wrong with a command line. -/
inductive UsageError where
  | noArguments
  | noCommand
  | unknownCommand (word : String)
  | unexpectedArgument (word : String)
  | unexpectedValue (value name : String)
  | noFile
  | noValue (slot : Slot)
  | badCount (text : String) (slot : Slot) (fault : CountFault)
  | repeatedSlot (slot : Slot)
  | repeatedFlag (flag : Flag)
deriving DecidableEq, Repr

/-- The words of the user stand in it without control functions. -/
def UsageError.message : UsageError → String
  | noArguments => description
  | noCommand => s!"error: '{programName}' requires a subcommand but one was not provided"
  | unknownCommand word => s!"error: unrecognized subcommand '{Text.visible word}'"
  | unexpectedArgument word => s!"error: unexpected argument '{Text.visible word}' found"
  | unexpectedValue value name =>
    s!"error: unexpected value '{Text.visible value}' for '{name}' found; no more were expected"
  | noFile => "error: the following required arguments were not provided:"
  | noValue slot => s!"error: a value is required for '{slot.name}' but none was supplied"
  | badCount text slot fault =>
    s!"error: invalid value '{Text.visible text}' for '{slot.name}': {fault.message}"
  | repeatedSlot slot => s!"error: the argument '{slot.name}' cannot be used multiple times"
  | repeatedFlag flag => s!"error: the argument '{flag.name}' cannot be used multiple times"

end Atari6502.CommandLine
