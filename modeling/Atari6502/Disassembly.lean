import Atari6502.Instruction
import Atari6502.Operand

/-!
Disassembly by a linear sweep: every byte of the input belongs to exactly one entry.
-/
namespace Atari6502

namespace Instruction

/-- The first instruction of `data`, which is loaded at `pc`. An opcode whose operand is cut off
takes all that is left. -/
def first? (pc : Address) : Bytes → Option Instruction
  | [] => none
  | byte :: rest =>
    match Opcode.find? byte with
    | none => some (unknown pc [byte])
    | some code =>
      let operand := rest.take (code.size - 1)
      if operand.length + 1 < code.size then
        some (unknown pc (byte :: operand))
      else
        some ⟨pc, byte :: operand, code.mnemonic, some (code.mode.operandText pc operand), code.mode⟩

/-- The instruction `offset` bytes into `data`, which is loaded at `base`. -/
def at? (data : Bytes) (offset : Nat) (base : Address) : Option Instruction :=
  first? (base.advance offset) (data.drop offset)

@[simp]
theorem first?_nil (pc : Address) : first? pc [] = none :=
  rfl

theorem first?_bytes {pc : Address} {data : Bytes} {entry : Instruction}
    (h : first? pc data = some entry) : 0 < entry.size ∧ entry.bytes = data.take entry.size := by
  cases data with
  | nil => simp at h
  | cons byte rest =>
    simp only [first?] at h
    split at h
    · obtain rfl := Option.some.inj h
      simp [unknown, size]
    · split at h <;> obtain rfl := Option.some.inj h <;>
        simp [unknown, size, ← List.take_eq_take_min]

theorem length_drop_lt {pc : Address} {data : Bytes} {entry : Instruction}
    (h : first? pc data = some entry) : (data.drop entry.size).length < data.length := by
  have hpos := (first?_bytes h).1
  have hne : data ≠ [] := by rintro rfl; simp at h
  have hlen := List.length_pos_iff.mpr hne
  simp only [List.length_drop]
  omega

end Instruction

namespace Disassembly

private def sweep (data : Bytes) (pc : Address) (done : List Instruction) : List Instruction :=
  match _h : Instruction.first? pc data with
  | none => done.reverse
  | some entry => sweep (data.drop entry.size) (pc.advance entry.size) (entry :: done)
termination_by data.length
decreasing_by exact Instruction.length_drop_lt _h

private theorem sweep_none {data : Bytes} {pc : Address} (done : List Instruction)
    (h : Instruction.first? pc data = none) : sweep data pc done = done.reverse := by
  rw [sweep]
  split <;> simp_all

private theorem sweep_some {data : Bytes} {pc : Address} {entry : Instruction}
    (done : List Instruction) (h : Instruction.first? pc data = some entry) :
    sweep data pc done =
      sweep (data.drop entry.size) (pc.advance entry.size) (entry :: done) := by
  rw [sweep]
  split
  · simp_all
  · obtain rfl : entry = _ := Option.some.inj (h.symm.trans (by assumption))
    rfl

private theorem sweep_append (data : Bytes) (pc : Address) (done : List Instruction) :
    sweep data pc done = done.reverse ++ sweep data pc [] := by
  cases h : Instruction.first? pc data with
  | none => simp [sweep_none _ h]
  | some entry =>
    rw [sweep_some _ h, sweep_some _ h, sweep_append, sweep_append _ _ [entry]]
    simp
termination_by data.length
decreasing_by all_goals exact Instruction.length_drop_lt h

end Disassembly

/-- Every instruction of `data`, which is loaded at `base`. -/
def disassemble (data : Bytes) (base : Address) : List Instruction :=
  Disassembly.sweep data base []

namespace Disassembly

theorem disassemble_of_first?_none {data : Bytes} {base : Address}
    (h : Instruction.first? base data = none) : disassemble data base = [] := by
  simp [disassemble, sweep_none _ h]

theorem disassemble_of_first?_some {data : Bytes} {base : Address} {entry : Instruction}
    (h : Instruction.first? base data = some entry) :
    disassemble data base =
      entry :: disassemble (data.drop entry.size) (base.advance entry.size) := by
  rw [disassemble, sweep_some _ h, sweep_append]
  rfl

end Disassembly
end Atari6502
