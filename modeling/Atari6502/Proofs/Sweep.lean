import Atari6502.Disassembly
import Atari6502.Proofs.Words

/-! The linear sweep, one entry at a time: what an entry can be, and that entries use up the input
while the program counter keeps pace. -/
namespace Atari6502

theorem Mode.size_le_three (mode : Mode) : mode.size ≤ 3 := by
  cases mode <;> decide

namespace Instruction

/-- `entry` is what stands at `pc` when its bytes are followed by `rest`: a documented instruction,
a byte without a documented meaning, or at the very end an instruction that is cut off. -/
inductive Reads (pc : Address) : Instruction → Bytes → Prop where
  | documented {byte : UInt8} {code : Opcode} {operand : Bytes} (rest : Bytes)
      (hcode : Opcode.find? byte = some code) (hsize : operand.length + 1 = code.size) :
      Reads pc ⟨pc, byte :: operand, code.mnemonic, some (code.mode.operandText pc operand),
        code.mode⟩ rest
  | undocumented {byte : UInt8} (rest : Bytes) (hcode : Opcode.find? byte = none) :
      Reads pc (unknown pc [byte]) rest
  | truncated {byte : UInt8} {code : Opcode} {operand : Bytes}
      (hcode : Opcode.find? byte = some code) (hshort : operand.length + 1 < code.size) :
      Reads pc (unknown pc (byte :: operand)) []

namespace Reads

variable {pc : Address} {entry : Instruction} {rest : Bytes}

theorem address_eq (h : Reads pc entry rest) : entry.address = pc := by
  cases h <;> rfl

theorem size_pos (h : Reads pc entry rest) : 0 < entry.size := by
  cases h <;> exact Nat.succ_pos _

theorem size_le_three (h : Reads pc entry rest) : entry.size ≤ 3 := by
  cases h with
  | @documented byte code operand rest hcode hsize =>
    have hmode := code.mode.size_le_three
    show operand.length + 1 ≤ 3
    rw [hsize]
    exact hmode
  | undocumented rest hcode => exact Nat.le_add_left 1 2
  | @truncated byte code operand hcode hshort =>
    have hmode := code.mode.size_le_three
    have hlt : operand.length + 1 < code.mode.size := hshort
    show operand.length + 1 ≤ 3
    omega

theorem first?_eq (h : Reads pc entry rest) : first? pc (entry.bytes ++ rest) = some entry := by
  cases h with
  | @documented byte code operand rest hcode hsize =>
    have htake : (operand ++ rest).take (code.size - 1) = operand := by
      rw [← hsize, Nat.add_sub_cancel, List.take_left]
    simp [first?, hcode, htake, hsize]
  | undocumented rest hcode => simp [first?, unknown, hcode]
  | @truncated byte code operand hcode hshort =>
    have htake : operand.take (code.size - 1) = operand := List.take_of_length_le (by omega)
    simp [first?, unknown, hcode, htake, hshort]

end Reads

theorem exists_reads_of_first? {pc : Address} {data : Bytes} {entry : Instruction}
    (h : first? pc data = some entry) : ∃ rest, data = entry.bytes ++ rest ∧ Reads pc entry rest := by
  cases data with
  | nil => simp at h
  | cons byte behind =>
    simp only [first?] at h
    split at h
    · rename_i hcode
      obtain rfl := Option.some.inj h
      exact ⟨behind, rfl, .undocumented behind hcode⟩
    · rename_i code hcode
      have hpos := code.size_pos
      have hsplit := List.take_append_drop (code.size - 1) behind
      split at h
      · rename_i hshort
        obtain rfl := Option.some.inj h
        have hdrop : behind.drop (code.size - 1) = [] := by
          rw [List.length_take] at hshort
          exact List.drop_eq_nil_of_le (by omega)
        refine ⟨[], ?_, .truncated hcode hshort⟩
        rw [hdrop] at hsplit
        exact congrArg (byte :: ·) hsplit.symm
      · rename_i hfull
        obtain rfl := Option.some.inj h
        have hsize : (behind.take (code.size - 1)).length + 1 = code.size := by
          have hle := List.length_take_le (code.size - 1) behind
          omega
        refine ⟨behind.drop (code.size - 1), ?_, .documented _ hcode hsize⟩
        exact congrArg (byte :: ·) hsplit.symm

theorem first?_eq_none_iff {pc : Address} {data : Bytes} : first? pc data = none ↔ data = [] := by
  cases data with
  | nil => simp
  | cons byte rest =>
    simp only [first?, reduceCtorEq, iff_false]
    split
    · simp
    · split <;> simp

end Instruction

namespace Disassembly

@[simp] theorem disassemble_nil (base : Address) : disassemble [] base = [] :=
  disassemble_of_first?_none (Instruction.first?_nil base)

theorem disassemble_of_reads {base : Address} {entry : Instruction} {rest : Bytes}
    (h : entry.Reads base rest) :
    disassemble (entry.bytes ++ rest) base =
      entry :: disassemble rest (base.advance entry.size) := by
  rw [disassemble_of_first?_some h.first?_eq, Instruction.size, List.drop_left]

/-- Induction along the sweep: the input is empty, or an entry and what is left behind it. -/
@[elab_as_elim]
theorem sweepInduction {motive : Bytes → Address → List Instruction → Prop}
    (nil : ∀ base, motive [] base [])
    (step : ∀ base entry rest, entry.Reads base rest →
      motive rest (base.advance entry.size) (disassemble rest (base.advance entry.size)) →
      motive (entry.bytes ++ rest) base (entry :: disassemble rest (base.advance entry.size)))
    (data : Bytes) (base : Address) : motive data base (disassemble data base) := by
  cases h : Instruction.first? base data with
  | none =>
    obtain rfl := Instruction.first?_eq_none_iff.mp h
    rw [disassemble_nil]
    exact nil base
  | some entry =>
    obtain ⟨rest, rfl, hreads⟩ := Instruction.exists_reads_of_first? h
    have hlt : rest.length < (entry.bytes ++ rest).length := by
      have hpos : 0 < entry.bytes.length := hreads.size_pos
      rw [List.length_append]
      omega
    rw [disassemble_of_reads hreads]
    exact step base entry rest hreads (sweepInduction nil step rest (base.advance entry.size))
termination_by data.length

/-- The bytes of the entries are the input. -/
theorem flatMap_bytes_disassemble (data : Bytes) (base : Address) :
    (disassemble data base).flatMap Instruction.bytes = data := by
  induction data, base using sweepInduction with
  | nil base => rfl
  | step base entry rest hreads ih => rw [List.flatMap_cons, ih]

theorem disassemble_eq_nil_iff {data : Bytes} {base : Address} :
    disassemble data base = [] ↔ data = [] := by
  constructor
  · intro h
    rw [← flatMap_bytes_disassemble data base, h, List.flatMap_nil]
  · rintro rfl
    exact disassemble_nil base

/-- Each entry is read at its own address, in front of the bytes of the entries behind it. -/
theorem reads_of_getElem? {data : Bytes} {base : Address} {i : Nat} {entry : Instruction}
    (h : (disassemble data base)[i]? = some entry) :
    entry.Reads entry.address (((disassemble data base).drop (i + 1)).flatMap Instruction.bytes) := by
  induction data, base using sweepInduction generalizing i with
  | nil base => simp at h
  | step base head rest hreads ih =>
    cases i with
    | zero =>
      obtain rfl : head = entry := by simpa using h
      rw [List.drop_succ_cons, List.drop_zero, flatMap_bytes_disassemble, hreads.address_eq]
      exact hreads
    | succ i => exact ih (by simpa using h)

theorem reads_of_mem {data : Bytes} {base : Address} {entry : Instruction}
    (h : entry ∈ disassemble data base) : ∃ rest, entry.Reads entry.address rest := by
  obtain ⟨i, hi⟩ := List.getElem?_of_mem h
  exact ⟨_, reads_of_getElem? hi⟩

/-- The bytes in the first `i` entries. -/
def consumed (entries : List Instruction) (i : Nat) : Nat :=
  ((entries.take i).flatMap Instruction.bytes).length

@[simp] theorem consumed_zero (entries : List Instruction) : consumed entries 0 = 0 :=
  rfl

@[simp] theorem consumed_cons_succ (entry : Instruction) (entries : List Instruction) (i : Nat) :
    consumed (entry :: entries) (i + 1) = entry.size + consumed entries i := by
  rw [consumed, List.take_succ_cons, List.flatMap_cons, List.length_append]
  rfl

/-- An entry stands as many bytes past the base as the entries before it hold. -/
theorem address_of_getElem? {data : Bytes} {base : Address} {i : Nat} {entry : Instruction}
    (h : (disassemble data base)[i]? = some entry) :
    entry.address = base.advance (consumed (disassemble data base) i) := by
  induction data, base using sweepInduction generalizing i with
  | nil base => simp at h
  | step base head rest hreads ih =>
    cases i with
    | zero =>
      obtain rfl : head = entry := by simpa using h
      rw [hreads.address_eq, consumed_zero, Address.advance_zero]
    | succ i => rw [ih (by simpa using h), consumed_cons_succ, Address.advance_add]

/-- Nothing is lost and nothing read twice: the entries hold the input byte by byte, one to three
bytes each, at the addresses where the bytes are loaded, around the top of memory if need be. -/
theorem disassemble_covers_input (data : Bytes) (base : Address) :
    let entries := disassemble data base
    entries.flatMap Instruction.bytes = data ∧
      (∀ entry ∈ entries, entry.bytes.length = 1 ∨ entry.bytes.length = 2 ∨ entry.bytes.length = 3) ∧
      ∀ (i : Nat) (entry : Instruction), entries[i]? = some entry →
        entry.address.toNat = (base.toNat + consumed entries i) % 65536 := by
  intro entries
  refine ⟨flatMap_bytes_disassemble data base, ?_, ?_⟩
  · intro entry hentry
    obtain ⟨rest, hreads⟩ := reads_of_mem hentry
    have hpos : 0 < entry.bytes.length := hreads.size_pos
    have hle : entry.bytes.length ≤ 3 := hreads.size_le_three
    omega
  · intro i entry hentry
    rw [address_of_getElem? hentry]
    exact Address.toNat_advance base _

end Disassembly
end Atari6502
