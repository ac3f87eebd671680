import Atari6502.Instruction
import Atari6502.Text.Blank

/-! Disassemblies as text: listings, excerpts of them, and tables that show the bytes. -/
namespace Atari6502

namespace Instruction

/-- Address, mnemonic and operand. -/
def line (entry : Instruction) : String :=
  Hex.word entry.address ++ "  " ++ entry.mnemonic ++ " " ++ entry.operandText

/-- Address, bytes, mnemonic and operand in columns. -/
def row (entry : Instruction) : String :=
  Text.trimEnd (Text.column 6 (Hex.word entry.address) ++ Text.column 10 (Hex.spaced entry.bytes) ++
    Text.column 5 entry.mnemonic ++ entry.operandText)

end Instruction

/-- One line for each entry. -/
def listing (entries : List Instruction) : String :=
  Text.joinLines (entries.map Instruction.line)

/-- The listing of the first `limit` entries, with a note on how many are left out. -/
def excerpt (entries : List Instruction) (limit : Nat) : String :=
  let shown := listing (entries.take limit)
  let omitted := entries.length - limit
  if omitted = 0 then shown else shown ++ s!"\n... (truncated {omitted} instructions)"

/-- One row for each entry. -/
def table (entries : List Instruction) : String :=
  Text.joinLines (entries.map Instruction.row)

end Atari6502
