import Atari6502.Proofs.Report

/-! Files that grow at the end. The segments of a file stay what they are when bytes are appended,
and bytes appended to a file that ends with a segment are read as a file of their own. -/
namespace Atari6502.Load

/-- The warning when the bytes it is about stand `distance` further into a file. -/
def Warning.shift (distance : Nat) : Warning → Warning
  | malformed offset start last => malformed (offset + distance) start last
  | truncated offset start last declared available =>
    truncated (offset + distance) start last declared available
  | clipped base size kept => clipped base size kept

namespace Ending

variable {offset : Nat} {rest : Bytes} {stop : Option Warning}

theorem shift (h : Ending offset rest stop) (distance : Nat) :
    Ending (offset + distance) rest (stop.map (Warning.shift distance)) := by
  cases h with
  | short h => exact .short h
  | malformed behind h => exact .malformed behind h
  | truncated behind h hshort => exact .truncated behind h hshort

/-- A header that ends before it starts stops the walk, whatever follows. -/
theorem append_of_malformed {headerOffset : Nat} {start last : Address} (h : Ending offset rest stop)
    (hstop : stop = some (.malformed headerOffset start last)) (more : Bytes) :
    Ending offset (rest ++ more) stop := by
  cases h with
  | short h => simp at hstop
  | malformed behind h =>
    rw [List.append_assoc]
    exact .malformed (behind ++ more) h
  | truncated behind h hshort => simp at hstop

end Ending

namespace Chain

/-- Where the bytes stand in a file matters only to the offset in a warning. -/
theorem ofBytes_add (offset distance : Nat) (data : Bytes) :
    ofBytes (offset + distance) data =
      ⟨(ofBytes offset data).segments, (ofBytes offset data).stop.map (Warning.shift distance)⟩ := by
  obtain ⟨hvalid, rest, hdata, hrest⟩ := exists_ending_ofBytes offset data
  have hshift := hrest.shift distance
  rw [Nat.add_right_comm] at hshift
  have hwalk := ofBytes_stored (offset + distance) hvalid hshift
  rwa [← hdata] at hwalk

theorem markerOf_append {data : Bytes} (h : markerMinimum ≤ data.length) (more : Bytes) :
    markerOf (data ++ more) = markerOf data := by
  have hmore : markerMinimum ≤ (data ++ more).length := by
    rw [List.length_append]
    omega
  have hmarker : marker.length ≤ data.length := by
    have hsizes : marker.length ≤ markerMinimum := by decide
    omega
  have hprefix : marker.isPrefixOf (data ++ more) = true ↔ marker.isPrefixOf data = true := by
    rw [List.isPrefixOf_iff_prefix, List.isPrefixOf_iff_prefix]
    constructor
    · intro hpre
      exact List.prefix_of_prefix_length_le hpre (List.prefix_append data more) hmarker
    · intro hpre
      exact hpre.trans (List.prefix_append data more)
  simp only [markerOf, h, hmore, hprefix]

/-- The segments of a file stay, and the walk goes on with what was left behind them. -/
theorem ofFile_append {data rest : Bytes} (hsegments : (ofFile data).segments ≠ [])
    (hfile : data = markerOf data ++ stored (ofFile data).segments ++ rest) (more : Bytes) :
    ofFile (data ++ more) =
      let behind := ofBytes (data.length - rest.length) (rest ++ more)
      ⟨(ofFile data).segments ++ behind.segments, behind.stop⟩ := by
  obtain ⟨hvalid, -⟩ := exists_ending_ofFile data
  have hlen := congrArg List.length hfile
  rw [List.length_append, List.length_append] at hlen
  -- With a segment in it the file is long enough to show its marker, so that more bytes add none.
  have hmin : markerMinimum ≤ data.length := by
    obtain ⟨first, others, hcons⟩ := List.exists_cons_of_ne_nil hsegments
    rw [hcons, stored_cons, List.length_append, Segment.length_stored] at hlen
    have hsizes : markerMinimum ≤ headerSize := by decide
    omega
  have hbody : (data ++ more).drop (markerOf data).length =
      stored (ofFile data).segments ++ (rest ++ more) := by
    calc (data ++ more).drop (markerOf data).length
      _ = (markerOf data ++ (stored (ofFile data).segments ++ (rest ++ more))).drop
            (markerOf data).length := by
          rw [← List.append_assoc, ← List.append_assoc, ← hfile]
      _ = stored (ofFile data).segments ++ (rest ++ more) := List.drop_left
  have hoffset : data.length - rest.length =
      (markerOf data).length + (stored (ofFile data).segments).length := by omega
  rw [ofFile, markerOf_append hmin, hbody, hoffset]
  exact ofBytes_stored_append _ hvalid _

theorem segments_prefix_ofFile_append {data : Bytes} (hsegments : (ofFile data).segments ≠ [])
    (more : Bytes) : (ofFile data).segments <+: (ofFile (data ++ more)).segments := by
  obtain ⟨-, rest, hfile, -⟩ := exists_ending_ofFile data
  rw [ofFile_append hsegments hfile]
  exact List.prefix_append _ _

theorem ofFile_append_of_malformed {data : Bytes} {offset : Nat} {start last : Address}
    (hsegments : (ofFile data).segments ≠ [])
    (hstop : (ofFile data).stop = some (.malformed offset start last)) (more : Bytes) :
    ofFile (data ++ more) = ofFile data := by
  obtain ⟨-, rest, hfile, hrest⟩ := exists_ending_ofFile data
  have hmore := hrest.append_of_malformed hstop more
  rw [ofFile_append hsegments hfile, ofBytes_of_link_error (link_of_ending hmore)]
  simp

/-- Behind a file that ends with a segment, a file without a marker reads as it does on its own. -/
theorem ofFile_append_ofFile {data more : Bytes} (hsegments : (ofFile data).segments ≠ [])
    (hfull : (markerOf data).length + (stored (ofFile data).segments).length = data.length)
    (hmore : markerOf more = []) :
    ofFile (data ++ more) = ⟨(ofFile data).segments ++ (ofFile more).segments,
      (ofFile more).stop.map (Warning.shift data.length)⟩ := by
  obtain ⟨-, rest, hfile, -⟩ := exists_ending_ofFile data
  have hrest : rest = [] := by
    have hlen := congrArg List.length hfile
    rw [List.length_append, List.length_append] at hlen
    exact List.length_eq_zero_iff.mp (by omega)
  subst hrest
  have hplace := ofBytes_add 0 data.length more
  rw [Nat.zero_add] at hplace
  have halone : ofFile more = ofBytes 0 more := by
    rw [ofFile, hmore]
    rfl
  rw [ofFile_append hsegments hfile, halone]
  simp only [List.nil_append, List.length_nil, Nat.sub_zero, hplace]

end Chain

/-- A file with segments keeps them when bytes are appended, and is read as before if a header that
ends before it starts has stopped the walk. If the segments are all that it holds, what is appended
adds the segments and the warnings that it has on its own, the latter at their new offsets. -/
theorem load_append {fallback : Address} {data : Bytes} (hne : data ≠ [])
    (hchain : (load fallback data).value.isRaw = false) (more : Bytes) :
    let before := (load fallback data).value
    let after := (load fallback (data ++ more)).value
    let front := if 3 ≤ data.length ∧ [0xFF, 0xFF] <+: data then data.take 2 else []
    after.isRaw = false ∧ before.segments <+: after.segments ∧
      ((∃ offset start last, Warning.malformed offset start last ∈ before.warnings) →
        after = before) ∧
      (front.length + (stored before.segments).length = data.length →
        ¬(3 ≤ more.length ∧ [0xFF, 0xFF] <+: more) →
        after = ⟨before.segments ++ (load fallback more).value.chainSegments,
          (load fallback more).value.chainWarnings.map (Warning.shift data.length), false⟩) := by
  intro before after front
  have hsegments := (isRaw_load_eq_false_iff hne).mp hchain
  have hprefix := Chain.segments_prefix_ofFile_append hsegments more
  have hbefore : before = _ := value_load_of_segments_ne_nil fallback hsegments
  have hafter : after = _ := value_load_of_segments_ne_nil fallback fun hnil =>
    hsegments (List.prefix_nil.mp (hnil ▸ hprefix))
  rw [hafter, hbefore]
  refine ⟨rfl, hprefix, ?_, ?_⟩
  · rintro ⟨offset, start, last, hmem⟩
    rw [Chain.ofFile_append_of_malformed hsegments (Option.mem_toList.mp hmem)]
  · intro hfull hmarker
    have hfront : front = Chain.markerOf data := (Chain.markerOf_eq data).symm
    have hmore : Chain.markerOf more = [] := (Chain.markerOf_eq more).trans (if_neg hmarker)
    rw [Chain.ofFile_append_ofFile hsegments (hfront ▸ hfull) hmore, chainSegments_load,
      chainWarnings_load, Option.toList_map]

theorem load_append_header_and_more :
    let data : Bytes := [0xFF, 0xFF, 0x00, 0x06, 0x01, 0x06, 0xA9, 0x05]
    let header : Bytes := [0x00, 0x07, 0xFF, 0x06]
    (load 0x2000 header).value.warnings = [.malformed 0 0x0700 0x06FF] ∧
      (load 0x2000 (data ++ header)).value =
        ⟨[⟨0x0600, 0x0601, [0xA9, 0x05]⟩], [.malformed 8 0x0700 0x06FF], false⟩ ∧
      (load 0x2000 (data ++ header ++ [0x60])).value = (load 0x2000 (data ++ header)).value := by
  intro data header
  obtain ⟨hchain, -, -, hrest⟩ := load_append (show data ≠ [] by decide)
    (show (load 0x2000 data).value.isRaw = false by decide +kernel) header
  have hvalue : (load 0x2000 (data ++ header)).value =
      ⟨[⟨0x0600, 0x0601, [0xA9, 0x05]⟩], [.malformed 8 0x0700 0x06FF], false⟩ :=
    (hrest (by decide +kernel) (by decide)).trans (by decide +kernel)
  obtain ⟨-, -, hstopped, -⟩ := load_append (show data ++ header ≠ [] by decide) hchain [0x60]
  refine ⟨by decide +kernel, hvalue, hstopped ⟨8, 0x0700, 0x06FF, ?_⟩⟩
  rw [hvalue]
  exact List.mem_singleton_self _

end Atari6502.Load
