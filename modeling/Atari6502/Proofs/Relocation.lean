import Atari6502.Proofs.Sweep
import Atari6502.Tally.Basic
import Mathlib.Data.List.Forall2

/-! The same machine code at two places. Addresses and branch targets move with the base, around the
top of memory if need be; all else of the disassembly stays, and so do the counts over it. -/
namespace Atari6502

namespace Address

variable (base shift : Address)

theorem add_advance (offset : Nat) : (base + shift).advance offset = base.advance offset + shift := by
  simp only [advance]
  ac_rfl

theorem add_branchTarget (displacement : UInt8) :
    (base + shift).branchTarget displacement = base.branchTarget displacement + shift := by
  simp only [branchTarget]
  ac_rfl

end Address

theorem Mode.operandText_of_ne_relative {mode : Mode} (h : mode ≠ .relative) (pc pc' : Address)
    (operand : Bytes) : mode.operandText pc operand = mode.operandText pc' operand := by
  cases mode with
  | relative => exact absurd rfl h
  | _ => rfl

namespace Instruction

/-- `other` is `one` at an address `shift` further on, with the same operand unless that is the
target of a branch, which is then `shift` further on as well. -/
structure MovedBy (shift : Address) (one other : Instruction) : Prop where
  address : other.address = one.address + shift
  bytes : other.bytes = one.bytes
  mnemonic : other.mnemonic = one.mnemonic
  mode : other.mode = one.mode
  operand : one.mode ≠ .relative → other.operand = one.operand
  target : one.mode = .relative → ∃ target : Address,
    one.operand = some ("$" ++ Hex.word target) ∧
      other.operand = some ("$" ++ Hex.word (target + shift))

theorem movedBy_unknown (shift pc : Address) (bytes : Bytes) :
    MovedBy shift (unknown pc bytes) (unknown (pc + shift) bytes) where
  address := rfl
  bytes := rfl
  mnemonic := rfl
  mode := rfl
  operand _ := rfl
  target := nofun

theorem movedBy_documented (shift pc : Address) (bytes operand : Bytes) (code : Opcode) :
    MovedBy shift
      ⟨pc, bytes, code.mnemonic, some (code.mode.operandText pc operand), code.mode⟩
      ⟨pc + shift, bytes, code.mnemonic, some (code.mode.operandText (pc + shift) operand),
        code.mode⟩ where
  address := rfl
  bytes := rfl
  mnemonic := rfl
  mode := rfl
  operand hmode := congrArg some (Mode.operandText_of_ne_relative hmode (pc + shift) pc operand)
  target := by
    intro hmode
    have hrelative : code.mode = .relative := hmode
    refine ⟨pc.branchTarget (operand.getD 0 0), ?_, ?_⟩
    · rw [hrelative]
      rfl
    · rw [hrelative, ← Address.add_branchTarget]
      rfl

theorem Reads.exists_movedBy {pc : Address} {entry : Instruction} {rest : Bytes}
    (h : entry.Reads pc rest) (shift : Address) :
    ∃ other, other.Reads (pc + shift) rest ∧ entry.MovedBy shift other := by
  cases h with
  | documented rest hcode hsize =>
    exact ⟨_, .documented rest hcode hsize, movedBy_documented shift pc _ _ _⟩
  | undocumented rest hcode => exact ⟨_, .undocumented rest hcode, movedBy_unknown shift pc _⟩
  | truncated hcode hshort => exact ⟨_, .truncated hcode hshort, movedBy_unknown shift pc _⟩

/-- The entry without what depends on its place. -/
def unplaced (entry : Instruction) : Instruction :=
  { entry with address := 0, operand := none }

theorem MovedBy.unplaced_eq {shift : Address} {one other : Instruction}
    (h : one.MovedBy shift other) : other.unplaced = one.unplaced := by
  simp only [unplaced, h.bytes, h.mnemonic, h.mode]

end Instruction

namespace Tally

/-- A tally counts nothing that depends on the place. -/
theorem ofInstructions_map_unplaced (entries : List Instruction) :
    ofInstructions (entries.map Instruction.unplaced) = ofInstructions entries := by
  simp only [ofInstructions, List.foldl_map, List.getLast?_map, Option.any_map]
  -- What is left asks for bytes, mnemonic and mode, which an entry keeps.
  rfl

theorem ofInstructions_eq_of_movedBy {shift : Address} {entries entries' : List Instruction}
    (h : List.Forall₂ (Instruction.MovedBy shift) entries entries') :
    ofInstructions entries' = ofInstructions entries := by
  have hunplaced : entries'.map Instruction.unplaced = entries.map Instruction.unplaced := by
    induction h with
    | nil => rfl
    | cons hmoved _ ih => rw [List.map_cons, List.map_cons, hmoved.unplaced_eq, ih]
  rw [← ofInstructions_map_unplaced, hunplaced, ofInstructions_map_unplaced]

end Tally

namespace Disassembly

theorem forall₂_movedBy_disassemble (data : Bytes) (base shift : Address) :
    List.Forall₂ (Instruction.MovedBy shift) (disassemble data base)
      (disassemble data (base + shift)) := by
  induction data, base using sweepInduction with
  | nil base =>
    rw [disassemble_nil]
    exact .nil
  | step base entry rest hreads ih =>
    -- Both sweeps take the same bytes, so that they are as far apart behind the entry as before it.
    obtain ⟨other, hother, hmoved⟩ := hreads.exists_movedBy shift
    have hrun := disassemble_of_reads hother
    have hsize : other.size = entry.size := congrArg List.length hmoved.bytes
    rw [hmoved.bytes, hsize, Address.add_advance] at hrun
    rw [hrun]
    exact .cons hmoved ih

/-- Loading machine code at another place moves the addresses and the targets of branches by the
distance between the two places, and changes nothing else. The counts stay the same. -/
theorem disassemble_relocated (data : Bytes) (base base' : Address) :
    List.Forall₂ (Instruction.MovedBy (base' - base)) (disassemble data base)
        (disassemble data base') ∧
      Tally.ofInstructions (disassemble data base') = Tally.ofInstructions (disassemble data base) := by
  have hbase : base + (base' - base) = base' := by
    rw [UInt16.add_comm, UInt16.sub_add_cancel]
  have hmoved := forall₂_movedBy_disassemble data base (base' - base)
  rw [hbase] at hmoved
  exact ⟨hmoved, Tally.ofInstructions_eq_of_movedBy hmoved⟩

end Disassembly
end Atari6502
