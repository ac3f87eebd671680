import Atari6502.Instruction
import Atari6502.Json

/-! Counts over a disassembly. -/
namespace Atari6502

/-- Counts over a disassembly. -/
structure Tally where
  instructions : Nat := 0
  bytes : Nat := 0
  /-- Entries without a documented meaning. -/
  unknown : Nat := 0
  unknownBytes : Nat := 0
  /-- Relative branches. -/
  branches : Nat := 0
  /-- Jumps and subroutine calls. -/
  jumps : Nat := 0
  /-- The last entry is an instruction that the end of the data cuts off. -/
  truncatedTail : Bool := false
  /-- Entries for each mode that occurs, in the order of reports. -/
  modes : List (Mode × Nat) := []
deriving DecidableEq, Repr

/-- Several bytes, or the opcode of a documented instruction, without a reading: the rest of the
instruction is missing. -/
def Instruction.isTruncated (entry : Instruction) : Bool :=
  entry.isUnknown &&
    (1 < entry.size || (entry.bytes.head?.bind Opcode.find?).isSome)

namespace Tally

/-- Counts one more entry in `mode`. -/
def countMode (mode : Mode) : List (Mode × Nat) → List (Mode × Nat)
  | [] => [(mode, 1)]
  | (other, count) :: modes =>
    if mode = other then (other, count + 1) :: modes
    else if mode.rank < other.rank then (mode, 1) :: (other, count) :: modes
    else (other, count) :: countMode mode modes

/-- Counts one more entry. -/
def add (tally : Tally) (entry : Instruction) : Tally :=
  let tally := { tally with
    instructions := tally.instructions + 1
    bytes := tally.bytes + entry.size
    modes := countMode entry.mode tally.modes }
  match entry.mode with
  | .unknown =>
    { tally with
      unknown := tally.unknown + 1
      unknownBytes := tally.unknownBytes + entry.size }
  | .relative => { tally with branches := tally.branches + 1 }
  | _ =>
    if entry.mnemonic = "JMP" ∨ entry.mnemonic = "JSR" then
      { tally with jumps := tally.jumps + 1 }
    else tally

def ofInstructions (entries : List Instruction) : Tally :=
  { entries.foldl add {} with truncatedTail := entries.getLast?.any Instruction.isTruncated }

/-- Entries in `mode`. -/
def count (tally : Tally) (mode : Mode) : Nat :=
  (tally.modes.lookup mode).getD 0

/-- The share of the bytes that have a documented meaning; all of them if there are none. -/
def coverage (tally : Tally) : Float :=
  if tally.bytes = 0 then 1.0
  else Float.ofNat (tally.bytes - tally.unknownBytes) / Float.ofNat tally.bytes

def toJson (tally : Tally) : Json :=
  .obj [
    ("instructions", .nat tally.instructions),
    ("bytes", .nat tally.bytes),
    ("unknown", .nat tally.unknown),
    ("unknown_bytes", .nat tally.unknownBytes),
    ("branches", .nat tally.branches),
    ("jumps", .nat tally.jumps),
    ("truncated_tail", .bool tally.truncatedTail),
    ("modes", .obj (tally.modes.map fun entry => (entry.1.tag, .nat entry.2)))]

end Tally
end Atari6502
