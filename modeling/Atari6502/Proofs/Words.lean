import Atari6502.Address

/-! Words as two bytes, and addresses as numbers. -/
namespace Atari6502

namespace Bytes

theorem toNat_word (lo hi : UInt8) : (word lo hi).toNat = lo.toNat + 256 * hi.toNat := by
  have hlo := lo.toNat_lt
  have hhi := hi.toNat_lt
  simp only [word, UInt16.toNat_add, UInt16.toNat_mul, UInt8.toNat_toUInt16, UInt16.reduceToNat]
  omega

private theorem toNat_low (w : UInt16) : w.toUInt8.toNat = w.toNat % 256 :=
  w.toNat_toUInt8

private theorem toNat_high (w : UInt16) : (w >>> 8).toUInt8.toNat = w.toNat / 256 := by
  have hw := w.toNat_lt
  have hshift : (w >>> 8).toNat = w.toNat / 256 := by
    rw [UInt16.toNat_shiftRight]
    exact Nat.shiftRight_eq_div_pow w.toNat 8
  rw [toNat_low, hshift]
  omega

@[simp] theorem length_ofWord (w : UInt16) : (ofWord w).length = 2 :=
  rfl

@[simp] theorem ofWord_word (lo hi : UInt8) : ofWord (word lo hi) = [lo, hi] := by
  have hlo := lo.toNat_lt
  have hlow : (word lo hi).toUInt8 = lo := by
    apply UInt8.toNat_inj.mp
    rw [toNat_low, toNat_word]
    omega
  have hhigh : (word lo hi >>> 8).toUInt8 = hi := by
    apply UInt8.toNat_inj.mp
    rw [toNat_high, toNat_word]
    omega
  rw [ofWord, hlow, hhigh]

/-- Every word is the word of its two bytes. -/
theorem word_bytes (w : UInt16) : word w.toUInt8 (w >>> 8).toUInt8 = w := by
  apply UInt16.toNat_inj.mp
  rw [toNat_word, toNat_low, toNat_high]
  omega

theorem ofWord_injective : Function.Injective ofWord := by
  intro v w h
  obtain ⟨hlo, hhi⟩ : v.toUInt8 = w.toUInt8 ∧ (v >>> 8).toUInt8 = (w >>> 8).toUInt8 := by
    simpa [ofWord] using h
  rw [← word_bytes v, ← word_bytes w, hlo, hhi]

end Bytes

namespace Address

/-- The wrap at the top, as a remainder. -/
theorem toNat_advance (base : Address) (offset : Nat) :
    (base.advance offset).toNat = (base.toNat + offset) % space := by
  simp [advance, space, UInt16.toNat_add]

theorem advance_eq_ofNat (base : Address) (offset : Nat) :
    base.advance offset = UInt16.ofNat ((base.toNat + offset) % space) := by
  apply UInt16.toNat_inj.mp
  rw [toNat_advance, UInt16.toNat_ofNat', space, Nat.mod_mod]

theorem toNat_advance_of_lt {base : Address} {offset : Nat} (h : base.toNat + offset < space) :
    (base.advance offset).toNat = base.toNat + offset := by
  rw [toNat_advance, Nat.mod_eq_of_lt h]

end Address
end Atari6502
