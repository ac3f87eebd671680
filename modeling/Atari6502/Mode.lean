/-! Addressing modes of the 6502. -/
namespace Atari6502

/-- How an instruction finds its operand. `unknown` marks bytes without a documented meaning. -/
inductive Mode where
  | implied
  | accumulator
  | immediate
  | zeroPage
  | zeroPageX
  | zeroPageY
  | relative
  | absolute
  | absoluteX
  | absoluteY
  | indirect
  | indexedIndirect
  | indirectIndexed
  | unknown
deriving DecidableEq, Repr

namespace Mode

/-- Every mode, in the order of reports. -/
def all : List Mode :=
  [implied, accumulator, immediate, zeroPage, zeroPageX, zeroPageY, relative, absolute,
   absoluteX, absoluteY, indirect, indexedIndirect, indirectIndexed, unknown]

def tag : Mode → String
  | implied => "IMP"
  | accumulator => "ACC"
  | immediate => "IMM"
  | zeroPage => "ZP"
  | zeroPageX => "ZPX"
  | zeroPageY => "ZPY"
  | relative => "REL"
  | absolute => "ABS"
  | absoluteX => "ABX"
  | absoluteY => "ABY"
  | indirect => "IND"
  | indexedIndirect => "IZX"
  | indirectIndexed => "IZY"
  | unknown => "UNK"

/-- The place of the mode in the order of reports. -/
def rank (mode : Mode) : Nat :=
  all.idxOf mode

/-- Bytes of a complete instruction in this mode. -/
def size : Mode → Nat
  | implied | accumulator | unknown => 1
  | absolute | absoluteX | absoluteY | indirect => 3
  | immediate | zeroPage | zeroPageX | zeroPageY | relative | indexedIndirect
  | indirectIndexed => 2

theorem mem_all (mode : Mode) : mode ∈ all := by
  cases mode <;> decide

theorem size_pos (mode : Mode) : 0 < mode.size := by
  cases mode <;> decide

end Mode
end Atari6502
