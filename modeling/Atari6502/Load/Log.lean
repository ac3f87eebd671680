import Atari6502.Disassembly
import Atari6502.Load.Report

/-! The log of a disassembly. -/
namespace Atari6502

/-- Disassembles `data`, and notes how many entries there are. -/
def Disassembly.logged (data : Bytes) (base : Address) : Logged (List Instruction) := do
  let entries := disassemble data base
  Logged.emit (.disassembled base data.length entries.length
    (entries.countP Instruction.isUnknown))
  return entries

/-- The disassembly of a segment. -/
def Segment.disassemble (segment : Segment) : Logged (List Instruction) :=
  Disassembly.logged segment.data segment.start

/-- The log of loading a file and disassembling each of its segments. -/
def Load.log (fallback : Address) (data : Bytes) : List Event :=
  let loaded := load fallback data
  loaded.events ++ loaded.value.segments.flatMap fun segment => segment.disassemble.events

end Atari6502
