import Atari6502.Proofs.Report

/-! Loading gives back what was written, and accounts for every byte of any other file. -/
namespace Atari6502.Load

/-- Segments as a file, with the marker in front if `marked`. -/
def written (marked : Bool) (segments : List Segment) : Bytes :=
  (if marked then marker else []) ++ stored segments

namespace Chain

theorem markerOf_stored_cons (first : Segment) (others : List Segment) (rest : Bytes) :
    markerOf (stored (first :: others) ++ rest) = if first.start = 0xFFFF then marker else [] := by
  have hword : stored (first :: others) ++ rest =
      Bytes.ofWord first.start ++ (Bytes.ofWord first.last ++ first.data ++ stored others ++ rest) := by
    simp [Segment.stored]
  have hfront := marker_isPrefixOf_ofWord_append first.start
    (Bytes.ofWord first.last ++ first.data ++ stored others ++ rest)
  rw [← hword] at hfront
  have hlen : markerMinimum ≤ (stored (first :: others) ++ rest).length := by
    rw [stored_cons, List.length_append, List.length_append, Segment.length_stored]
    have hsizes : markerMinimum ≤ headerSize := by decide
    omega
  by_cases htop : first.start = 0xFFFF
  · rw [if_pos htop]
    exact if_pos ⟨hlen, hfront.mpr htop⟩
  · rw [if_neg htop]
    exact if_neg fun h => htop (hfront.mp h.2)

theorem markerOf_written {marked : Bool} {first : Segment} (others : List Segment) (rest : Bytes)
    (h : marked = true ∨ first.start ≠ 0xFFFF) :
    markerOf (written marked (first :: others) ++ rest) = if marked then marker else [] := by
  cases marked with
  | false =>
    have htop : first.start ≠ 0xFFFF := by simpa using h
    exact (markerOf_stored_cons first others rest).trans (if_neg htop)
  | true =>
    have hlen : markerMinimum ≤ (written true (first :: others) ++ rest).length := by
      have hmarker : marker.length = 2 := by decide
      simp only [written, if_true, stored_cons, List.length_append, Segment.length_stored, hmarker,
        markerMinimum, headerSize]
      omega
    have hpre : marker.isPrefixOf (written true (first :: others) ++ rest) = true := by
      rw [written, List.append_assoc]
      exact List.isPrefixOf_iff_prefix.mpr (List.prefix_append _ _)
    exact if_pos ⟨hlen, hpre⟩

end Chain

/-- What no marker announces is not read back if it begins at the topmost address: the start is
taken for a marker, so two bytes less are left for segments, and a raw image that is not clipped
holds the header as well. -/
theorem not_load_stored_of_top {first : Segment} (fallback : Address) (others : List Segment)
    (htop : first.start = 0xFFFF) :
    ¬((load fallback (stored (first :: others))).value.segments = first :: others ∧
      (load fallback (stored (first :: others))).value.warnings = []) := by
  rintro ⟨hsegments, hwarnings⟩
  have hmarker : Chain.markerOf (stored (first :: others)) = marker := by
    have h := Chain.markerOf_stored_cons first others []
    rwa [List.append_nil, if_pos htop] at h
  obtain ⟨-, rest, hfile, -⟩ := Chain.exists_ending_ofFile (stored (first :: others))
  rw [value_load] at hsegments hwarnings
  split_ifs at hsegments hwarnings with hraw
  · obtain ⟨hfirst, rfl⟩ : rawSegment fallback (stored (first :: others)) = first ∧ [] = others := by
      simpa using hsegments
    obtain ⟨-, hclip⟩ := List.append_eq_nil_iff.mp hwarnings
    have hsize := rawWarning?_eq_none (Option.toList_eq_nil_iff.mp hclip)
    rw [hfirst, stored_cons, stored_nil, List.append_nil, Segment.length_stored] at hsize
    have hheader : 0 < headerSize := by decide
    omega
  · dsimp only at hsegments
    rw [hmarker, hsegments] at hfile
    have hlen := congrArg List.length hfile
    have htwo : marker.length = 2 := by decide
    simp only [List.length_append] at hlen
    omega

/-- Segments that are written, with or without a marker, and anything behind them in which no
segment begins, are read back, with the warning that the ending calls for. Only a file that has no
marker and begins at the topmost address is read otherwise. -/
theorem load_written (fallback : Address) (marked : Bool) (first : Segment) (others : List Segment)
    {rest : Bytes} {stop : Option Warning}
    (hvalid : ∀ segment ∈ first :: others, segment.Valid)
    (hrest : Ending (written marked (first :: others)).length rest stop) :
    (marked = true ∨ first.start ≠ 0xFFFF →
      (load fallback (written marked (first :: others) ++ rest)).value =
        ⟨first :: others, stop.toList, false⟩) ∧
    (marked = false → first.start = 0xFFFF → rest = [] →
      ¬((load fallback (written marked (first :: others) ++ rest)).value.segments = first :: others ∧
        (load fallback (written marked (first :: others) ++ rest)).value.warnings = [])) := by
  constructor
  · intro hfront
    have hmarker := Chain.markerOf_written others rest hfront
    rw [written, List.length_append] at hrest
    have hchain := Chain.ofFile_stored hmarker hvalid hrest
    rw [value_load, written, hchain]
    exact if_neg (by simp)
  · rintro rfl htop rfl
    rw [List.append_nil]
    exact not_load_stored_of_top fallback others htop

theorem load_written_two_and_top :
    (load 0x2000 (written false [⟨0x0600, 0x0601, [0xA9, 0x05]⟩, ⟨0xFFFF, 0xFFFF, [0x60]⟩] ++
        [0x00, 0x07, 0xFF, 0x06])).value =
      ⟨[⟨0x0600, 0x0601, [0xA9, 0x05]⟩, ⟨0xFFFF, 0xFFFF, [0x60]⟩],
        [.malformed 11 0x0700 0x06FF], false⟩ ∧
    ¬((load 0xFFFF (written false [⟨0xFFFF, 0xFFFF, [0xFF]⟩] ++ [])).value.segments =
          [⟨0xFFFF, 0xFFFF, [0xFF]⟩] ∧
        (load 0xFFFF (written false [⟨0xFFFF, 0xFFFF, [0xFF]⟩] ++ [])).value.warnings = []) := by
  have hrest : Ending 11 [0x00, 0x07, 0xFF, 0x06] (some (.malformed 11 0x0700 0x06FF)) :=
    Ending.malformed [] (show (0x06FF : Address) < 0x0700 by decide)
  have hnone : Ending 5 [] none := .short (by decide)
  have hfile := load_written 0x2000 false ⟨0x0600, 0x0601, [0xA9, 0x05]⟩
    [⟨0xFFFF, 0xFFFF, [0x60]⟩] (by decide) hrest
  have htop := load_written 0xFFFF false ⟨0xFFFF, 0xFFFF, [0xFF]⟩ [] (by decide) hnone
  exact ⟨hfile.1 (.inr (by decide)), htop.2 rfl rfl rfl⟩

/-- Any file is a marker or nothing, the segments of the report as they are written, and an ending
that the warnings describe. A raw image leaves all but the marker to the ending. -/
theorem load_accounts_for_file (fallback : Address) (data : Bytes) :
    let report := (load fallback data).value
    let front := if 3 ≤ data.length ∧ [0xFF, 0xFF] <+: data then data.take 2 else []
    ∃ rest stop, data = front ++ stored report.chainSegments ++ rest ∧
      report.chainWarnings = stop.toList ∧ Ending (data.length - rest.length) rest stop := by
  intro report front
  obtain ⟨-, rest, hfile, hrest⟩ := Chain.exists_ending_ofFile data
  refine ⟨rest, (Chain.ofFile data).stop, ?_, chainWarnings_load fallback data, hrest⟩
  calc data = Chain.markerOf data ++ stored (Chain.ofFile data).segments ++ rest := hfile
    _ = front ++ stored report.chainSegments ++ rest := by
      rw [Chain.markerOf_eq, ← chainSegments_load fallback data]

end Atari6502.Load
