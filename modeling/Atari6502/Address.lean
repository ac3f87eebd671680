import Atari6502.Bytes

/-! Addresses of the 64 KiB memory. Arithmetic runs around the top. -/
namespace Atari6502

abbrev Address := UInt16

namespace Address

/-- The number of addresses. -/
def space : Nat := 0x10000

/-- The number as an address, if it is one. -/
def ofNat? (n : Nat) : Option Address :=
  if n < space then some (UInt16.ofNat n) else none

/-- Bytes of a branch instruction. -/
def branchSize : Address := 2

/-- The address `offset` bytes past `base`. -/
def advance (base : Address) (offset : Nat) : Address :=
  base + UInt16.ofNat offset

/-- A displacement byte as a signed distance: from 128 up it counts backwards. -/
def distance (displacement : UInt8) : Address :=
  if displacement < 128 then displacement.toUInt16 else displacement.toUInt16 - 256

/-- Where the branch at `pc` leads; displacements count from the next instruction. -/
def branchTarget (pc : Address) (displacement : UInt8) : Address :=
  pc + branchSize + distance displacement

@[simp]
theorem advance_zero (base : Address) : base.advance 0 = base := by
  simp [advance]

theorem advance_add (base : Address) (m n : Nat) :
    base.advance (m + n) = (base.advance m).advance n := by
  simp [advance, UInt16.ofNat_add, UInt16.add_assoc]

end Address
end Atari6502
