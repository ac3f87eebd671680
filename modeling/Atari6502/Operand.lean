import Atari6502.Hex
import Atari6502.Mode

/-! Operands in assembler notation. -/
namespace Atari6502

/-- The operand of an instruction at `pc` in assembler notation. Operand bytes that are not there
read as zero, and a branch shows the address it leads to. -/
def Mode.operandText (mode : Mode) (pc : Address) (operand : Bytes) : String :=
  let lo := operand.getD 0 0
  let hi := operand.getD 1 0
  let byte := Hex.byte lo
  let word := Hex.word (Bytes.word lo hi)
  match mode with
  | .implied | .unknown => ""
  | .accumulator => "A"
  | .immediate => s!"#${byte}"
  | .zeroPage => s!"${byte}"
  | .zeroPageX => s!"${byte},X"
  | .zeroPageY => s!"${byte},Y"
  | .relative => "$" ++ Hex.word (pc.branchTarget lo)
  | .absolute => s!"${word}"
  | .absoluteX => s!"${word},X"
  | .absoluteY => s!"${word},Y"
  | .indirect => s!"(${word})"
  | .indexedIndirect => s!"(${byte},X)"
  | .indirectIndexed => s!"(${byte}),Y"

end Atari6502
