import Atari6502.Load.Report
import Atari6502.Proofs.AddressMap
import Atari6502.Proofs.Layout

/-! Reports and the chain of a file. All that a report lists are valid segments, and a raw image is
one as well: it is cut so that it fits below the top. -/
namespace Atari6502.Load

/-- The warning is about a raw image and not about the chain. -/
def Warning.isClip : Warning → Bool
  | clipped .. => true
  | _ => false

namespace Report

/-- The segments that stand in the file itself. -/
def chainSegments (report : Report) : List Segment :=
  if report.isRaw then [] else report.segments

/-- The warnings about the file itself. -/
def chainWarnings (report : Report) : List Warning :=
  report.warnings.filter fun warning => !warning.isClip

end Report

@[simp] theorem value_mapM_note (warning? : Option Warning) :
    (warning?.mapM Warning.note).value = warning? := by
  cases warning? <;> rfl

theorem value_load (fallback : Address) (data : Bytes) :
    (load fallback data).value =
      if (Chain.ofFile data).segments = [] ∧ data ≠ [] then
        ⟨[rawSegment fallback data],
          (Chain.ofFile data).stop.toList ++ (rawWarning? fallback data).toList, true⟩
      else ⟨(Chain.ofFile data).segments, (Chain.ofFile data).stop.toList, false⟩ := by
  simp only [load, Logged.value_bind, value_mapM_note]
  by_cases h : (Chain.ofFile data).segments = [] ∧ data ≠ []
  · rw [if_pos h]
    simp [h]
  · rw [if_neg h]
    have hchain : ((Chain.ofFile data).segments.isEmpty && !data.isEmpty) = false := by
      simpa using h
    simp [hchain]

theorem isRaw_load_iff {fallback : Address} {data : Bytes} (hne : data ≠ []) :
    (load fallback data).value.isRaw = true ↔ (Chain.ofFile data).segments = [] := by
  rw [value_load]
  split_ifs with hraw
  · exact iff_of_true rfl hraw.1
  · exact iff_of_false (by simp) fun hnil => hraw ⟨hnil, hne⟩

theorem isRaw_load_eq_false_iff {fallback : Address} {data : Bytes} (hne : data ≠ []) :
    (load fallback data).value.isRaw = false ↔ (Chain.ofFile data).segments ≠ [] := by
  rw [← Bool.not_eq_true, isRaw_load_iff hne]

theorem value_load_of_segments_eq_nil {data : Bytes} (fallback : Address) (hne : data ≠ [])
    (h : (Chain.ofFile data).segments = []) :
    (load fallback data).value =
      ⟨[rawSegment fallback data],
        (Chain.ofFile data).stop.toList ++ (rawWarning? fallback data).toList, true⟩ := by
  rw [value_load, if_pos ⟨h, hne⟩]

theorem value_load_of_segments_ne_nil {data : Bytes} (fallback : Address)
    (h : (Chain.ofFile data).segments ≠ []) :
    (load fallback data).value =
      ⟨(Chain.ofFile data).segments, (Chain.ofFile data).stop.toList, false⟩ := by
  rw [value_load, if_neg fun hraw => h hraw.1]

theorem chainSegments_load (fallback : Address) (data : Bytes) :
    (load fallback data).value.chainSegments = (Chain.ofFile data).segments := by
  rw [value_load]
  split_ifs with hraw
  · exact hraw.1.symm
  · rfl

theorem Ending.filter_stop {offset : Nat} {rest : Bytes} {stop : Option Warning}
    (h : Ending offset rest stop) :
    stop.toList.filter (fun warning => !warning.isClip) = stop.toList := by
  cases h <;> rfl

theorem filter_rawWarning? (base : Address) (data : Bytes) :
    (rawWarning? base data).toList.filter (fun warning => !warning.isClip) = [] := by
  unfold rawWarning?
  dsimp only
  split_ifs <;> rfl

theorem chainWarnings_load (fallback : Address) (data : Bytes) :
    (load fallback data).value.chainWarnings = (Chain.ofFile data).stop.toList := by
  obtain ⟨-, rest, -, hrest⟩ := Chain.exists_ending_ofFile data
  rw [value_load]
  split_ifs with hraw
  · rw [Report.chainWarnings, List.filter_append, hrest.filter_stop, filter_rawWarning?,
      List.append_nil]
  · exact hrest.filter_stop

theorem size_rawSegment (base : Address) (data : Bytes) :
    (rawSegment base data).size = min (Address.space - base.toNat) data.length := by
  simp [rawSegment, Segment.size]

theorem rawWarning?_eq_none {base : Address} {data : Bytes} (h : rawWarning? base data = none) :
    (rawSegment base data).size = data.length := by
  have hle : (rawSegment base data).size ≤ data.length := by
    rw [size_rawSegment]
    exact Nat.min_le_right _ _
  have hnot : ¬(rawSegment base data).size < data.length := by
    simpa [rawWarning?] using h
  omega

theorem valid_rawSegment (base : Address) {data : Bytes} (h : data ≠ []) :
    (rawSegment base data).Valid := by
  have hbase : base.toNat < Address.space := base.toNat_lt
  have hpos : 0 < data.length := List.length_pos_iff.mpr h
  have hsize := size_rawSegment base data
  have hne : (rawSegment base data).data ≠ [] := by
    apply List.ne_nil_of_length_pos
    show 0 < (rawSegment base data).size
    omega
  have hfit : base.toNat + (rawSegment base data).size ≤ Address.space := by omega
  exact Segment.valid_of_fit hne hfit

theorem valid_of_mem_load {fallback : Address} {data : Bytes} {segment : Segment}
    (h : segment ∈ (load fallback data).value.segments) : segment.Valid := by
  rw [value_load] at h
  split_ifs at h with hraw
  · obtain rfl : segment = rawSegment fallback data := by simpa using h
    exact valid_rawSegment fallback hraw.2
  · exact (Chain.exists_ending_ofFile data).1 segment h

end Atari6502.Load
