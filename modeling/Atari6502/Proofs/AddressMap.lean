import Atari6502.Proofs.Words
import Atari6502.Segment
import Mathlib.Data.Set.Function

/-! Segments as maps from addresses to bytes. -/
namespace Atari6502.Segment

/-- Bytes that fit below the top fill the addresses from the start on. -/
theorem valid_of_fit {start : Address} {data : Bytes} (hne : data ≠ [])
    (hfit : start.toNat + data.length ≤ Address.space) :
    Valid ⟨start, start.advance (data.length - 1), data⟩ := by
  have hpos : 0 < data.length := List.length_pos_iff.mpr hne
  have hlast : (start.advance (data.length - 1)).toNat = start.toNat + (data.length - 1) :=
    Address.toNat_advance_of_lt (by omega)
  constructor
  · show start.toNat ≤ (start.advance (data.length - 1)).toNat
    omega
  · show start.toNat + data.length = (start.advance (data.length - 1)).toNat + 1
    omega

theorem contains_iff {segment : Segment} {address : Address} :
    segment.contains address = true ↔ segment.start ≤ address ∧ address ≤ segment.last := by
  rw [contains, Bool.and_eq_true, decide_eq_true_iff, decide_eq_true_iff]

namespace Valid

variable {segment : Segment} {offset : Nat}

/-- A valid segment ends at or below the top. -/
theorem toNat_add_size_le (hvalid : segment.Valid) :
    segment.start.toNat + segment.size ≤ Address.space := by
  have hlast : segment.last.toNat < Address.space := segment.last.toNat_lt
  have hlen : segment.start.toNat + segment.size = segment.last.toNat + 1 := hvalid.2
  omega

theorem data_ne_nil (hvalid : segment.Valid) : segment.data ≠ [] := by
  intro hnil
  have hle : segment.start.toNat ≤ segment.last.toNat := hvalid.1
  have hlen := hvalid.2
  rw [hnil, List.length_nil] at hlen
  omega

theorem toNat_addressOf (hvalid : segment.Valid) (h : offset < segment.size) :
    (segment.addressOf offset).toNat = segment.start.toNat + offset := by
  have hfit := hvalid.toNat_add_size_le
  exact Address.toNat_advance_of_lt (by omega)

theorem contains_addressOf (hvalid : segment.Valid) (h : offset < segment.size) :
    segment.contains (segment.addressOf offset) = true := by
  have haddress := hvalid.toNat_addressOf h
  have hlen : segment.start.toNat + segment.size = segment.last.toNat + 1 := hvalid.2
  have hlow : segment.start.toNat ≤ (segment.addressOf offset).toNat := by omega
  have hhigh : (segment.addressOf offset).toNat ≤ segment.last.toNat := by omega
  exact contains_iff.mpr ⟨hlow, hhigh⟩

/-- Within one turn around memory, offsets past the data lead to addresses outside the segment. -/
theorem contains_addressOf_iff (hvalid : segment.Valid) (hspace : offset < Address.space) :
    segment.contains (segment.addressOf offset) = true ↔ offset < segment.size := by
  refine ⟨fun hcontains => ?_, hvalid.contains_addressOf⟩
  have haddress : (segment.addressOf offset).toNat = (segment.start.toNat + offset) % 65536 :=
    Address.toNat_advance segment.start offset
  have hlen : segment.start.toNat + segment.size = segment.last.toNat + 1 := hvalid.2
  have hlast : segment.last.toNat < 65536 := segment.last.toNat_lt
  have hturn : offset < 65536 := hspace
  have hbounds := contains_iff.mp hcontains
  have hlow : segment.start.toNat ≤ (segment.addressOf offset).toNat := hbounds.1
  have hhigh : (segment.addressOf offset).toNat ≤ segment.last.toNat := hbounds.2
  omega

theorem byteAt?_addressOf (hvalid : segment.Valid) (h : offset < segment.size) :
    segment.byteAt? (segment.addressOf offset) = segment.data[offset]? := by
  have haddress := hvalid.toNat_addressOf h
  have hlow : segment.start ≤ segment.addressOf offset :=
    UInt16.le_iff_toNat_le.mpr (by omega)
  have hindex : (segment.addressOf offset - segment.start).toNat = offset := by
    rw [UInt16.toNat_sub_of_le _ _ hlow]
    omega
  rw [byteAt?, if_pos (hvalid.contains_addressOf h), hindex]

theorem exists_addressOf_eq (hvalid : segment.Valid) {address : Address}
    (h : segment.contains address = true) :
    ∃ offset < segment.size, segment.addressOf offset = address := by
  obtain ⟨hlow, hhigh⟩ := contains_iff.mp h
  have hfrom : segment.start.toNat ≤ address.toNat := hlow
  have hupTo : address.toNat ≤ segment.last.toNat := hhigh
  have hlen : segment.start.toNat + segment.size = segment.last.toNat + 1 := hvalid.2
  have hoffset : address.toNat - segment.start.toNat < segment.size := by omega
  refine ⟨address.toNat - segment.start.toNat, hoffset, ?_⟩
  apply UInt16.toNat_inj.mp
  rw [hvalid.toNat_addressOf hoffset]
  omega

theorem bijOn_addressOf (hvalid : segment.Valid) :
    Set.BijOn segment.addressOf {offset | offset < segment.size}
      {address | segment.contains address = true} := by
  refine ⟨fun offset hoffset => hvalid.contains_addressOf hoffset, ?_, ?_⟩
  · intro offset hoffset other hother heq
    have hone := hvalid.toNat_addressOf hoffset
    have htwo := hvalid.toNat_addressOf hother
    have hsame : (segment.addressOf offset).toNat = (segment.addressOf other).toNat :=
      congrArg UInt16.toNat heq
    omega
  · intro address haddress
    exact hvalid.exists_addressOf_eq haddress

theorem byteAt?_eq_none_iff (hvalid : segment.Valid) (address : Address) :
    segment.byteAt? address = none ↔ segment.contains address = false := by
  constructor
  · intro hnone
    by_cases hcontains : segment.contains address = true
    · obtain ⟨offset, hoffset, rfl⟩ := hvalid.exists_addressOf_eq hcontains
      rw [hvalid.byteAt?_addressOf hoffset, List.getElem?_eq_none_iff] at hnone
      exact absurd hoffset (Nat.not_lt.mpr hnone)
    · exact Bool.not_eq_true _ ▸ hcontains
  · intro houtside
    rw [byteAt?, houtside]
    rfl

end Valid

/-- In a segment of any shape, a byte is found by its distance from the start, which is taken only
where the address is not below it. -/
theorem byteAt?_eq_some_iff {segment : Segment} {address : Address} {value : UInt8} :
    segment.byteAt? address = some value ↔
      segment.start ≤ address ∧ address ≤ segment.last ∧
        ∃ h : address.toNat - segment.start.toNat < segment.data.length,
          value = segment.data.get ⟨address.toNat - segment.start.toNat, h⟩ := by
  by_cases hcontains : segment.contains address = true
  · obtain ⟨hlow, hhigh⟩ := contains_iff.mp hcontains
    rw [byteAt?, if_pos hcontains, UInt16.toNat_sub_of_le _ _ hlow, List.getElem?_eq_some_iff]
    constructor
    · rintro ⟨hlt, rfl⟩
      exact ⟨hlow, hhigh, hlt, rfl⟩
    · rintro ⟨-, -, hlt, rfl⟩
      exact ⟨hlt, rfl⟩
  · rw [byteAt?, if_neg hcontains]
    refine iff_of_false (by simp) ?_
    rintro ⟨hlow, hhigh, -⟩
    exact hcontains (contains_iff.mpr ⟨hlow, hhigh⟩)

/-- Offsets into the data of a valid segment and the addresses of the segment correspond one to one,
and a byte is found at exactly these addresses, namely the one at the offset. In a segment whose
addresses and data do not fit, start behind the end included, a byte is found exactly at addresses
from the start to the end whose distance from the start is an index of the data. -/
theorem addressOf_byteAt?_inverse (segment : Segment) :
    (segment.Valid →
      Set.BijOn segment.addressOf {offset | offset < segment.size}
          {address | segment.contains address = true} ∧
        (∀ (offset : Nat) (h : offset < segment.size),
          segment.byteAt? (segment.addressOf offset) = some (segment.data.get ⟨offset, h⟩)) ∧
        ∀ address, segment.byteAt? address = none ↔ segment.contains address = false) ∧
      ∀ (address : Address) (value : UInt8),
        segment.byteAt? address = some value ↔
          segment.start ≤ address ∧ address ≤ segment.last ∧
            ∃ h : address.toNat - segment.start.toNat < segment.data.length,
              value = segment.data.get ⟨address.toNat - segment.start.toNat, h⟩ := by
  refine ⟨fun hvalid => ⟨hvalid.bijOn_addressOf, fun offset h => ?_, hvalid.byteAt?_eq_none_iff⟩,
    fun _ _ => byteAt?_eq_some_iff⟩
  rw [hvalid.byteAt?_addressOf h]
  exact List.getElem?_eq_getElem h

theorem addressOf_byteAt?_inverse_at_top :
    let segment : Segment := ⟨0xFFFE, 0xFFFF, [0xA9, 0x05]⟩
    segment.Valid ∧ segment.byteAt? (segment.addressOf 1) = some 0x05 ∧
      segment.byteAt? (segment.addressOf 2) = none := by
  intro segment
  have hvalid : segment.Valid := by decide
  obtain ⟨-, hbyte, hnone⟩ := (addressOf_byteAt?_inverse segment).1 hvalid
  exact ⟨hvalid, hbyte 1 (by decide), (hnone _).mpr (by decide)⟩

end Atari6502.Segment
