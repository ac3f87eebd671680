import Atari6502.Proofs.Report

/-! Segments that are built are valid, and one way of building them is as good as another: loading
gives no segment that the checked constructor would refuse. -/
namespace Atari6502

theorem Address.ofNat?_eq_some_iff {n : Nat} {address : Address} :
    ofNat? n = some address ↔ address.toNat = n := by
  unfold ofNat?
  split_ifs with hlt
  · rw [Option.some_inj, ← UInt16.toNat_inj, UInt16.toNat_ofNat_of_lt' hlt, eq_comm]
  · refine iff_of_false (fun h => nomatch h) ?_
    rintro rfl
    exact hlt address.toNat_lt

namespace Segment

variable {start : Address} {data : Bytes}

/-- The constructor is total on valid segments and builds no others. -/
theorem ofData?_eq_some_iff {segment : Segment} :
    ofData? start data = some segment ↔
      segment.Valid ∧ segment.start = start ∧ segment.data = data := by
  unfold ofData?
  constructor
  · intro h
    split at h
    · cases h
    · rename_i offset hlength
      obtain ⟨last, hlast, hpure⟩ := Option.bind_eq_some_iff.mp h
      obtain rfl := Option.some.inj hpure
      have htop := Address.ofNat?_eq_some_iff.mp hlast
      refine ⟨⟨UInt16.le_iff_toNat_le.mpr ?_, ?_⟩, rfl, rfl⟩
      · show start.toNat ≤ last.toNat
        omega
      · show start.toNat + data.length = last.toNat + 1
        omega
  · rintro ⟨⟨hle, htop⟩, rfl, rfl⟩
    have hle := UInt16.le_iff_toNat_le.mp hle
    split
    · omega
    · rename_i offset hlength
      have hlast : Address.ofNat? (segment.start.toNat + offset) = some segment.last :=
        Address.ofNat?_eq_some_iff.mpr (by omega)
      rw [hlast]
      rfl

theorem isSome_ofData?_iff :
    (ofData? start data).isSome = true ↔ data ≠ [] ∧ start.toNat + data.length ≤ Address.space := by
  constructor
  · intro h
    obtain ⟨segment, hsegment⟩ := Option.isSome_iff_exists.mp h
    obtain ⟨hvalid, rfl, rfl⟩ := ofData?_eq_some_iff.mp hsegment
    exact ⟨hvalid.data_ne_nil, hvalid.toNat_add_size_le⟩
  · rintro ⟨hne, hfit⟩
    exact Option.isSome_of_eq_some (ofData?_eq_some_iff.mpr ⟨valid_of_fit hne hfit, rfl, rfl⟩)

end Segment

namespace Load

theorem segments_load_eq_nil_iff {fallback : Address} {data : Bytes} :
    (load fallback data).value.segments = [] ↔ data = [] := by
  by_cases hne : data = []
  · subst hne
    have hchain : (Chain.ofFile []).segments = [] :=
      Chain.segments_ofFile_eq_nil_iff.mpr ⟨none, .short (by decide)⟩
    rw [value_load, if_neg fun hraw => hraw.2 rfl]
    exact iff_of_true hchain rfl
  · refine iff_of_false ?_ hne
    by_cases hsegments : (Chain.ofFile data).segments = []
    · rw [value_load_of_segments_eq_nil fallback hne hsegments]
      exact List.cons_ne_nil _ _
    · rw [value_load_of_segments_ne_nil fallback hsegments]
      exact hsegments

/-- Every segment of a report is valid and the one that the checked constructor builds, and there is
one at least unless the file is empty. The constructor builds a segment exactly if there are bytes
and they fit below the top, and then a valid one. -/
theorem load_segments_valid (fallback : Address) (data : Bytes) :
    (∀ segment ∈ (load fallback data).value.segments,
        segment.Valid ∧ Segment.ofData? segment.start segment.data = some segment) ∧
      ((load fallback data).value.segments = [] ↔ data = []) ∧
      ∀ (start : Address) (bytes : Bytes),
        ((Segment.ofData? start bytes).isSome = true ↔
          bytes ≠ [] ∧ start.toNat + bytes.length ≤ 65536) ∧
        ∀ segment, Segment.ofData? start bytes = some segment →
          segment.Valid ∧ segment.start = start ∧ segment.data = bytes := by
  refine ⟨?_, segments_load_eq_nil_iff, fun start bytes => ⟨Segment.isSome_ofData?_iff, ?_⟩⟩
  · intro segment hmem
    have hvalid := valid_of_mem_load hmem
    exact ⟨hvalid, Segment.ofData?_eq_some_iff.mpr ⟨hvalid, rfl, rfl⟩⟩
  · intro segment hsegment
    exact Segment.ofData?_eq_some_iff.mp hsegment

end Load
end Atari6502
