import Atari6502.Proofs.Kinds
import Atari6502.Proofs.Text
import Mathlib.Data.List.Nodup

/-! Instructions in assembler notation: mnemonic and operand leave only one opcode, and the operand
only one choice of operand bytes. -/
namespace Atari6502

namespace Address

theorem distance_injective : Function.Injective distance := by
  intro a b h
  have hlow : ∀ displacement, (distance displacement).toUInt8 = displacement := by
    intro displacement
    unfold distance
    split
    · exact UInt8.toUInt8_toUInt16 displacement
    · rw [UInt16.toUInt8_sub, UInt8.toUInt8_toUInt16]
      exact UInt8.sub_zero displacement
  rw [← hlow a, h, hlow]

theorem branchTarget_injective (pc : Address) : Function.Injective (branchTarget pc) := by
  intro a b h
  exact distance_injective ((UInt16.add_right_inj _).mp h)

end Address

namespace Bytes

theorem word_inj {lo hi lo' hi' : UInt8} (h : word lo hi = word lo' hi') : lo = lo' ∧ hi = hi' := by
  have hbytes := congrArg ofWord h
  simpa using hbytes

end Bytes

namespace Mode

/-- What an operand in this mode looks like, with zeros for its digits. -/
def form : Mode → List Char
  | implied | unknown => []
  | accumulator => ['0']
  | immediate => ['#', '$', '0', '0']
  | zeroPage => ['$', '0', '0']
  | zeroPageX => ['$', '0', '0', ',', 'X']
  | zeroPageY => ['$', '0', '0', ',', 'Y']
  | relative | absolute => ['$', '0', '0', '0', '0']
  | absoluteX => ['$', '0', '0', '0', '0', ',', 'X']
  | absoluteY => ['$', '0', '0', '0', '0', ',', 'Y']
  | indirect => ['(', '$', '0', '0', '0', '0', ')']
  | indexedIndirect => ['(', '$', '0', '0', ',', 'X', ')']
  | indirectIndexed => ['(', '$', '0', '0', ')', ',', 'Y']

theorem map_blur_operandText (mode : Mode) (pc : Address) (operand : Bytes) :
    (mode.operandText pc operand).toList.map Hex.blur = mode.form := by
  cases mode <;>
    simp [form, operandText, toString, Hex.map_blur_byte, Hex.map_blur_word] <;> decide

/-- The operand bytes can be read off the operand. -/
theorem operand_eq_of_operandText_eq {mode : Mode} {pc : Address} {one other : Bytes}
    (hone : one.length + 1 = mode.size) (hother : other.length + 1 = mode.size)
    (h : mode.operandText pc one = mode.operandText pc other) : one = other := by
  have hone' : one.length = mode.size - 1 := Nat.eq_sub_of_add_eq hone
  have hother' : other.length = mode.size - 1 := Nat.eq_sub_of_add_eq hother
  cases mode with
  | implied | accumulator | unknown =>
    rw [List.length_eq_zero_iff.mp hone', List.length_eq_zero_iff.mp hother']
  | immediate | zeroPage | zeroPageX | zeroPageY | indexedIndirect | indirectIndexed =>
    obtain ⟨lo, rfl⟩ := List.length_eq_one_iff.mp hone'
    obtain ⟨lo', rfl⟩ := List.length_eq_one_iff.mp hother'
    have hbyte : Hex.byte lo = Hex.byte lo' := by simpa [operandText, toString] using h
    rw [Hex.byte_injective hbyte]
  | relative =>
    obtain ⟨lo, rfl⟩ := List.length_eq_one_iff.mp hone'
    obtain ⟨lo', rfl⟩ := List.length_eq_one_iff.mp hother'
    have hword : Hex.word (pc.branchTarget lo) = Hex.word (pc.branchTarget lo') := by
      simpa [operandText] using h
    rw [pc.branchTarget_injective (Hex.word_injective hword)]
  | absolute | absoluteX | absoluteY | indirect =>
    obtain ⟨lo, hi, rfl⟩ := List.length_eq_two.mp hone'
    obtain ⟨lo', hi', rfl⟩ := List.length_eq_two.mp hother'
    have hword : Hex.word (Bytes.word lo hi) = Hex.word (Bytes.word lo' hi') := by
      simpa [operandText, toString] using h
    obtain ⟨rfl, rfl⟩ := Bytes.word_inj (Hex.word_injective hword)
    rfl

end Mode

namespace Opcode

variable {byte byte' : UInt8} {code code' : Opcode}

theorem letters_of_find? (h : find? byte = some code) :
    code.mnemonic.toList.length = 3 ∧ ∀ c ∈ code.mnemonic.toList, c.isUpper = true := by
  have htable : documented.all (fun entry => decide (entry.2.mnemonic.toList.length = 3 ∧
      entry.2.mnemonic.toList.all Char.isUpper = true)) = true := by decide
  obtain ⟨hlength, hupper⟩ := of_decide_eq_true (of_all_documented htable h)
  exact ⟨hlength, List.all_eq_true.mp hupper⟩

theorem mnemonic_ne_unknown (h : find? byte = some code) :
    code.mnemonic ≠ Instruction.unknownMnemonic := by
  intro hunknown
  have hmem : '?' ∈ code.mnemonic.toList := by rw [hunknown]; decide
  have hupper := (letters_of_find? h).2 '?' hmem
  exact absurd hupper (by decide)

-- Relative and absolute operands look alike and are of one form here, but no mnemonic has both. To
-- compare all mnemonics of the table with each other would take ten times as long.
theorem nodup_mnemonics (mode : Mode) :
    ((documented.filter fun entry => entry.2.mode.form == mode.form).map
      fun entry => entry.2.mnemonic).Nodup := by
  cases mode <;> decide

theorem eq_of_mnemonic_of_form (h : find? byte = some code) (h' : find? byte' = some code')
    (hmnemonic : code.mnemonic = code'.mnemonic) (hform : code.mode.form = code'.mode.form) :
    byte = byte' ∧ code = code' := by
  have hmem : (byte, code) ∈ documented.filter fun entry => entry.2.mode.form == code'.mode.form :=
    List.mem_filter.mpr ⟨mem_documented_of_find? h, beq_iff_eq.mpr hform⟩
  have hmem' :
      (byte', code') ∈ documented.filter fun entry => entry.2.mode.form == code'.mode.form :=
    List.mem_filter.mpr ⟨mem_documented_of_find? h', beq_self_eq_true _⟩
  have hpair := List.inj_on_of_nodup_map (nodup_mnemonics code'.mode) hmem hmem' hmnemonic
  exact Prod.mk.inj hpair

end Opcode
end Atari6502
