import Atari6502.Json
import Atari6502.Opcode

/-! Entries of a disassembly. -/
namespace Atari6502

/-- One entry of a disassembly: the bytes at an address and how they read. -/
structure Instruction where
  address : Address
  bytes : Bytes
  mnemonic : String
  operand : Option String
  mode : Mode
deriving DecidableEq, Repr

namespace Instruction

/-- What stands for the mnemonic of bytes without a documented meaning. -/
def unknownMnemonic : String := "???"

/-- Bytes that do not form a documented instruction. -/
def unknown (address : Address) (bytes : Bytes) : Instruction where
  address
  bytes
  mnemonic := unknownMnemonic
  operand := none
  mode := .unknown

def size (entry : Instruction) : Nat :=
  entry.bytes.length

def isUnknown (entry : Instruction) : Bool :=
  entry.mode == .unknown

def operandText (entry : Instruction) : String :=
  entry.operand.getD ""

def toJson (entry : Instruction) : Json :=
  .obj [
    ("address", .nat entry.address.toNat),
    ("bytes", .ofBytes entry.bytes),
    ("mnemonic", .str entry.mnemonic),
    ("operand", match entry.operand with | none => .null | some text => .str text),
    ("mode", .str entry.mode.tag)]

end Instruction
end Atari6502
