import Atari6502.Proofs.Placement

/-! Branches in memory: where a branch leads, counted in bytes from the start of its segment. -/
namespace Atari6502

namespace Address

/-- A displacement byte as a number: from 128 up it is negative. -/
def signed (displacement : UInt8) : Int :=
  if displacement < 128 then displacement.toNat else displacement.toNat - 256

theorem toNat_branchTarget (pc : Address) (displacement : UInt8) :
    ((pc.branchTarget displacement).toNat : Int) = (pc.toNat + 2 + signed displacement) % 65536 := by
  have hbyte := displacement.toNat_lt
  unfold branchTarget distance signed branchSize
  split
  · simp only [UInt16.toNat_add, UInt8.toNat_toUInt16, UInt16.reduceToNat]
    omega
  · simp only [UInt16.toNat_add, UInt16.toNat_sub, UInt8.toNat_toUInt16, UInt16.reduceToNat]
    omega

/-- A branch and the place it leads to are as far apart seen from the base as in memory. -/
theorem branchTarget_advance (base : Address) (offset : Nat) (displacement : UInt8) :
    (base.advance offset).branchTarget displacement =
      base.advance ((offset + 2 + signed displacement) % 65536).toNat := by
  have htarget := toNat_branchTarget (base.advance offset) displacement
  have hpc : (base.advance offset).toNat = (base.toNat + offset) % 65536 :=
    toNat_advance base offset
  have hplace := toNat_advance base ((offset + 2 + signed displacement) % 65536).toNat
  apply UInt16.toNat_inj.mp
  rw [hplace]
  show _ = _ % 65536
  omega

end Address

theorem Instruction.Reads.exists_displacement {pc : Address} {entry : Instruction} {rest : Bytes}
    (h : entry.Reads pc rest) (hmode : entry.mode = .relative) :
    ∃ opcode displacement, entry.bytes = [opcode, displacement] ∧
      entry.operand = some ("$" ++ Hex.word (pc.branchTarget displacement)) := by
  cases h with
  | @documented byte code operand rest hcode hsize =>
    have hrelative : code.mode = .relative := hmode
    have hlength : operand.length = 1 := by
      rw [Opcode.size, hrelative] at hsize
      exact Nat.succ.inj hsize
    obtain ⟨displacement, rfl⟩ := List.length_eq_one_iff.mp hlength
    refine ⟨byte, displacement, rfl, ?_⟩
    rw [hrelative]
    rfl
  | undocumented rest hcode => exact Mode.noConfusion hmode
  | truncated hcode hshort => exact Mode.noConfusion hmode

namespace Load

open Disassembly

variable {fallback : Address} {data : Bytes} {segment : Segment} {i : Nat} {entry : Instruction}

/-- The operand of a branch in a loaded segment is the address of the place that the displacement
counts to, in bytes from the start of the segment and around the top of memory. The address is one of
the segment exactly if the place is in its data, and then the byte there is loaded at the address. -/
theorem branch_operand_in_segment (hsegment : segment ∈ (load fallback data).value.segments)
    (hentry : (disassemble segment.data segment.start)[i]? = some entry)
    (hmode : entry.mode = .relative) :
    ∃ opcode displacement, entry.bytes = [opcode, displacement] ∧
      let offset := consumed (disassemble segment.data segment.start) i
      let place := ((offset + 2 + Address.signed displacement) % 65536).toNat
      entry.operand = some ("$" ++ Hex.word (segment.addressOf place)) ∧
        (segment.contains (segment.addressOf place) = true ↔ place < segment.size) ∧
        ∀ hplace : place < segment.size,
          segment.byteAt? (segment.addressOf place) = some (segment.data.get ⟨place, hplace⟩) := by
  have hvalid := valid_of_mem_load hsegment
  obtain ⟨opcode, displacement, hbytes, hoperand⟩ :=
    (reads_of_getElem? hentry).exists_displacement hmode
  refine ⟨opcode, displacement, hbytes, ?_⟩
  intro offset place
  have hspace : place < Address.space := by
    show _ < 65536
    omega
  refine ⟨?_, hvalid.contains_addressOf_iff hspace, fun hplace => ?_⟩
  · rw [hoperand, address_of_getElem? hentry, Address.branchTarget_advance]
    rfl
  · rw [hvalid.byteAt?_addressOf hplace]
    exact List.getElem?_eq_getElem hplace

-- At the top of memory, a branch back to the byte before it.
theorem branch_operand_in_clipped_image :
    let segment : Segment := ⟨0xFFFD, 0xFFFF, [0xEA, 0xD0, 0xFD]⟩
    let entry : Instruction := ⟨0xFFFE, [0xD0, 0xFD], "BNE", some "$FFFD", .relative⟩
    segment ∈ (load 0xFFFD [0xEA, 0xD0, 0xFD, 0x60]).value.segments ∧
      (disassemble segment.data segment.start)[1]? = some entry ∧
      segment.contains (segment.addressOf 0) = true ∧
      segment.byteAt? (segment.addressOf 0) = some 0xEA := by
  intro segment entry
  have hsegment : segment ∈ (load 0xFFFD [0xEA, 0xD0, 0xFD, 0x60]).value.segments := by
    decide +kernel
  have hentry : (disassemble segment.data segment.start)[1]? = some entry := by decide +kernel
  have hoffset : consumed (disassemble segment.data segment.start) 1 = 1 := by decide +kernel
  obtain ⟨opcode, displacement, hbytes, -, hcontains, hbyte⟩ :=
    branch_operand_in_segment hsegment hentry rfl
  obtain ⟨rfl, rfl⟩ : 0xD0 = opcode ∧ 0xFD = displacement := by simpa [entry] using hbytes
  rw [hoffset] at hcontains
  refine ⟨hsegment, hentry, hcontains.mpr (by decide), ?_⟩
  simp only [hoffset] at hbyte
  exact hbyte (by decide)

end Load
end Atari6502
