import Atari6502.Hex
import Atari6502.Text.Blank

/-! Hex dumps. -/
namespace Atari6502

namespace HexDump

private def cut (width : Nat) (data : Bytes) (done : List Bytes) : List Bytes :=
  if data = [] ∨ width = 0 then done.reverse
  else cut width (data.drop width) (data.take width :: done)
termination_by data.length
decreasing_by
  have hlen : 0 < data.length := List.length_pos_iff.mpr (by simp_all)
  simp only [List.length_drop]
  omega

/-- The rows of a dump: `width` bytes each, the last one as many as are left. -/
def rows (width : Nat) (data : Bytes) : List Bytes :=
  cut width data []

private theorem cut_eq (width : Nat) (data : Bytes) (done : List Bytes) :
    cut width data done = done.reverse ++ cut width data [] := by
  by_cases h : data = [] ∨ width = 0
  · have hcut : ∀ done, cut width data done = done.reverse := fun done => by rw [cut, if_pos h]
    simp [hcut]
  · have hcut : ∀ done, cut width data done = cut width (data.drop width) (data.take width :: done) :=
      fun done => by rw [cut, if_neg h]
    rw [hcut, hcut, cut_eq _ _ (data.take width :: done), cut_eq _ _ [data.take width]]
    simp
termination_by data.length
decreasing_by
  all_goals
    have hlen : 0 < data.length := List.length_pos_iff.mpr (by simp_all)
    simp only [List.length_drop]
    omega

@[simp]
theorem rows_nil (width : Nat) : rows width [] = [] := by
  rw [rows, cut]
  simp

theorem rows_of_ne_nil {width : Nat} {data : Bytes} (hw : 0 < width) (h : data ≠ []) :
    rows width data = data.take width :: rows width (data.drop width) := by
  have hcut : ¬(data = [] ∨ width = 0) := by simp [h, Nat.ne_of_gt hw]
  rw [rows, cut, if_neg hcut, cut_eq]
  rfl

end HexDump

/-- The bytes of `data`, loaded at `base`, in rows of `width` bytes and of at least one. -/
def hexDump (data : Bytes) (base : Address) (width : Nat) : String :=
  let width := max width 1
  Text.joinLines ((HexDump.rows width data).mapIdx fun i row =>
    Hex.word (base.advance (i * width)) ++ "  " ++ Hex.spaced row)

end Atari6502
