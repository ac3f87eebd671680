import Atari6502.Failure
import Atari6502.HexDump
import Atari6502.Listing
import Atari6502.Load.Log
import Atari6502.Settings.Document
import Atari6502.Tally.Report

/-! Sessions: a file is loaded, one of its segments selected and read step by step. -/
namespace Atari6502

/-- A selected segment, its disassembly and a position in it. -/
structure Selection where
  segment : Segment
  entries : List Instruction
  cursor : Nat := 0

namespace Selection

def ofSegment (segment : Segment) : Selection where
  segment
  entries := disassemble segment.data segment.start

/-- The instruction at the cursor, which moves behind it. -/
def step (selection : Selection) : Option Instruction × Selection :=
  match Instruction.at? selection.segment.data selection.cursor selection.segment.start with
  | none => (none, selection)
  | some entry => (some entry, { selection with cursor := selection.cursor + entry.size })

def seek (selection : Selection) (offset : Nat) : Selection :=
  { selection with cursor := offset }

end Selection

structure Session where
  settings : Settings := {}
  report : Load.Report := {}
  selection : Option Selection := none

namespace Session

/-- Takes the settings of a document. -/
def configure (session : Session) (format : Settings.Format) (document : String) :
    Except Failure Session := do
  let settings ← (Settings.parse format document).mapError .badSettings
  return { session with settings }

/-- Loads a file; nothing is selected. -/
def load (session : Session) (data : Bytes) : Session :=
  { session with
    report := (Load.load session.settings.fallbackAddress data).value
    selection := none }

/-- Selects a segment, with the cursor at its start. -/
def select (session : Session) (index : Nat) : Except Failure (Selection × Session) := do
  let selection := Selection.ofSegment (← Segment.select session.report.segments index)
  return (selection, { session with selection := some selection })

/-- Changes the selection. -/
def withSelection (session : Session) (selection : Selection) : Session :=
  { session with selection := some selection }

end Session
end Atari6502
