import Atari6502.Proofs.Report

/-! Raw images: a file that does not begin with a segment is loaded as a whole, as far as it fits
below the top. The address it is loaded to matters to nothing else. -/
namespace Atari6502.Load

theorem rawWarning?_eq (base : Address) (data : Bytes) :
    rawWarning? base data =
      if Address.space - base.toNat < data.length then
        some (.clipped base data.length (min data.length (Address.space - base.toNat)))
      else none := by
  have hsize := size_rawSegment base data
  rw [Nat.min_comm] at hsize
  have hclip : min data.length (Address.space - base.toNat) < data.length ↔
      Address.space - base.toNat < data.length := by omega
  simp only [rawWarning?, hsize, hclip]

theorem rawSegment_eq (base : Address) {data : Bytes} (hne : data ≠ []) :
    ∃ last : Address,
      rawSegment base data = ⟨base, last, data.take (min data.length (Address.space - base.toNat))⟩ ∧
        last.toNat = base.toNat + min data.length (Address.space - base.toNat) - 1 := by
  refine ⟨(rawSegment base data).last, ?_, ?_⟩
  · have htake : data.take (Address.space - base.toNat) =
        data.take (min data.length (Address.space - base.toNat)) := by
      rw [Nat.min_comm, ← List.take_eq_take_min]
    rw [← htake]
    rfl
  · have hsize := size_rawSegment base data
    have hfill : base.toNat + (rawSegment base data).size = (rawSegment base data).last.toNat + 1 :=
      (valid_rawSegment base hne).2
    omega

theorem getLast?_warnings_of_segments_eq_nil (fallback : Address) {data : Bytes} (hne : data ≠ [])
    (h : (Chain.ofFile data).segments = []) :
    (load fallback data).value.warnings.getLast? =
        some (.clipped fallback data.length (min data.length (Address.space - fallback.toNat))) ↔
      Address.space - fallback.toNat < data.length := by
  rw [value_load_of_segments_eq_nil fallback hne h, rawWarning?_eq]
  split_ifs with hclip
  · simp [hclip]
  · refine iff_of_false ?_ hclip
    intro hlast
    -- The chain itself never calls for a warning about clipping.
    obtain ⟨-, rest, -, hrest⟩ := Chain.exists_ending_ofFile data
    have hmem := List.mem_of_getLast? hlast
    rw [Option.toList_none, List.append_nil] at hmem
    have hclean := List.filter_eq_self.mp hrest.filter_stop _ hmem
    simp [Warning.isClip] at hclean

/-- A file is loaded as a raw image exactly if no complete segment stands in front of it, behind the
marker. The image is all of the file, marker included, that fits below the top, and the last warning
says if something does not. The fallback decides where the image goes and how much of it fits, and
nothing else. -/
theorem load_raw_image (fallback : Address) {data : Bytes} (hne : data ≠ []) :
    let report := (load fallback data).value
    let front := if 3 ≤ data.length ∧ [0xFF, 0xFF] <+: data then data.take 2 else []
    let kept := min data.length (65536 - fallback.toNat)
    (report.isRaw = true ↔ ∃ stop, Ending front.length (data.drop front.length) stop) ∧
      (report.isRaw = false ↔ ∃ (segment : Segment) (behind : Bytes),
        segment.Valid ∧ data.drop front.length = segment.stored ++ behind) ∧
      (report.isRaw = true →
        (∃ last : Address, report.segments = [⟨fallback, last, data.take kept⟩] ∧
          last.toNat = fallback.toNat + kept - 1) ∧
        (report.warnings.getLast? = some (.clipped fallback data.length kept) ↔
          65536 - fallback.toNat < data.length)) ∧
      ∀ other : Address,
        (load other data).value.isRaw = report.isRaw ∧
          (load other data).value.chainWarnings = report.chainWarnings ∧
          (report.isRaw = false → (load other data).value = report) := by
  intro report front kept
  have hnil : report.isRaw = true ↔ (Chain.ofFile data).segments = [] := isRaw_load_iff hne
  have hraw : report.isRaw = true ↔ ∃ stop, Ending front.length (data.drop front.length) stop := by
    rw [hnil, Chain.segments_ofFile_eq_nil_iff, Chain.markerOf_eq]
  refine ⟨hraw, ?_, ?_, ?_⟩
  · rw [← Bool.not_eq_true, hraw, Chain.exists_ending_iff, Classical.not_not]
  · intro h
    obtain ⟨last, hsegment, hlast⟩ := rawSegment_eq fallback hne
    refine ⟨⟨last, ?_, hlast⟩, getLast?_warnings_of_segments_eq_nil fallback hne (hnil.mp h)⟩
    show (load fallback data).value.segments = _
    rw [value_load_of_segments_eq_nil fallback hne (hnil.mp h), hsegment]
    rfl
  · intro other
    refine ⟨?_, ?_, ?_⟩
    · rw [Bool.eq_iff_iff, hnil, isRaw_load_iff hne]
    · show _ = (load fallback data).value.chainWarnings
      rw [chainWarnings_load, chainWarnings_load]
    · intro h
      have hsegments := (isRaw_load_eq_false_iff hne).mp h
      show _ = (load fallback data).value
      rw [value_load_of_segments_ne_nil _ hsegments, value_load_of_segments_ne_nil _ hsegments]

theorem load_raw_image_below_top :
    let report := (load 0xFFFE [0xFF, 0xFF, 0x60]).value
    report.isRaw = true ∧
      (∃ last : Address, report.segments = [⟨0xFFFE, last, [0xFF, 0xFF]⟩] ∧ last.toNat = 0xFFFF) ∧
      report.warnings.getLast? = some (.clipped 0xFFFE 3 2) := by
  intro report
  have hne : [0xFF, 0xFF, 0x60] ≠ ([] : Bytes) := by decide
  obtain ⟨hraw, -, himage, -⟩ := load_raw_image 0xFFFE hne
  have h : report.isRaw = true := hraw.mpr ⟨none, .short (by decide)⟩
  obtain ⟨hsegments, hwarning⟩ := himage h
  exact ⟨h, hsegments, hwarning.mpr (by decide)⟩

end Atari6502.Load
