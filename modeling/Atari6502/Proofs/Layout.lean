import Atari6502.Load.Chain
import Atari6502.Proofs.Words
import Mathlib.Tactic.SplitIfs

/-! Files as written: segments one behind the other, and bytes in which no segment begins. Reading
such a file gives back the segments and says why it stopped, and every file is of this form. -/
namespace Atari6502

/-- The segment as it stands in a file. -/
def Segment.stored (segment : Segment) : Bytes :=
  Bytes.ofWord segment.start ++ Bytes.ofWord segment.last ++ segment.data

theorem Segment.length_stored (segment : Segment) :
    segment.stored.length = Load.headerSize + segment.size := by
  simp only [Segment.stored, Segment.size, Load.headerSize, List.length_append, Bytes.length_ofWord]

namespace Load

/-- Segments as they stand in a file, one behind the other. -/
def stored (segments : List Segment) : Bytes :=
  segments.flatMap Segment.stored

/-- No segment begins in `rest`, which stand `offset` bytes into the file, and `stop` says what is
wrong with them. Too few bytes for a header are no fault. -/
inductive Ending (offset : Nat) : Bytes → Option Warning → Prop where
  | short {rest : Bytes} (h : rest.length < headerSize) : Ending offset rest none
  | malformed {start last : Address} (behind : Bytes) (h : last < start) :
      Ending offset (Bytes.ofWord start ++ Bytes.ofWord last ++ behind)
        (some (.malformed offset start last))
  | truncated {start last : Address} (behind : Bytes) (h : start ≤ last)
      (hshort : behind.length < last.toNat - start.toNat + 1) :
      Ending offset (Bytes.ofWord start ++ Bytes.ofWord last ++ behind)
        (some (.truncated offset start last (last.toNat - start.toNat + 1) behind.length))

@[simp] theorem stored_nil : stored [] = [] :=
  rfl

@[simp] theorem stored_cons (segment : Segment) (segments : List Segment) :
    stored (segment :: segments) = segment.stored ++ stored segments :=
  rfl

namespace Header

theorem read?_words (start last : Address) (rest : Bytes) :
    read? (Bytes.ofWord start ++ Bytes.ofWord last ++ rest) = some (⟨start, last⟩, rest) := by
  simp only [Bytes.ofWord, List.cons_append, List.nil_append, read?, Bytes.word_bytes]

theorem eq_of_read? {data rest : Bytes} {header : Header} (h : read? data = some (header, rest)) :
    data = Bytes.ofWord header.start ++ Bytes.ofWord header.last ++ rest := by
  unfold read? at h
  split at h
  · obtain ⟨rfl, rfl⟩ : _ = header ∧ _ = rest := by simpa using h
    simp
  · simp at h

theorem length_lt_of_read?_none {data : Bytes} (h : read? data = none) :
    data.length < headerSize := by
  unfold read? at h
  split at h
  · simp at h
  · rename_i hshort
    rcases data with _ | ⟨a, _ | ⟨b, _ | ⟨c, _ | ⟨d, rest⟩⟩⟩⟩
    · decide
    · simp [headerSize]
    · simp [headerSize]
    · simp [headerSize]
    · exact absurd rfl (hshort a b c d rest)

theorem read?_of_length_lt {data : Bytes} (h : data.length < headerSize) : read? data = none := by
  cases hread : read? data with
  | none => rfl
  | some found =>
    have hlen := length_of_read? hread
    omega

theorem declared_eq {header : Header} (h : header.start ≤ header.last) :
    header.declared = header.last.toNat - header.start.toNat + 1 := by
  rw [declared, UInt16.toNat_sub_of_le _ _ h]

end Header

namespace Chain

theorem link_stored (offset : Nat) {segment : Segment} (hvalid : segment.Valid) (rest : Bytes) :
    link offset (segment.stored ++ rest) = .ok (segment, rest) := by
  obtain ⟨hle, hlen⟩ := hvalid
  have hnat : segment.start.toNat ≤ segment.last.toNat := hle
  have hread : Header.read? (segment.stored ++ rest) =
      some (⟨segment.start, segment.last⟩, segment.data ++ rest) := by
    rw [Segment.stored, List.append_assoc _ segment.data rest, Header.read?_words]
  have hdeclared : (Header.mk segment.start segment.last).declared = segment.data.length := by
    rw [Header.declared_eq hle]
    dsimp only
    omega
  simp [link, hread, hdeclared, UInt16.not_lt.mpr hle]

theorem link_of_ending {offset : Nat} {rest : Bytes} {stop : Option Warning}
    (h : Ending offset rest stop) : link offset rest = .error stop := by
  cases h with
  | short h => simp [link, Header.read?_of_length_lt h]
  | malformed behind h =>
    rw [link, Header.read?_words]
    exact if_pos h
  | @truncated start last behind h hshort =>
    have hdeclared : (Header.mk start last).declared = last.toNat - start.toNat + 1 :=
      Header.declared_eq h
    have htake : behind.take (last.toNat - start.toNat + 1) = behind :=
      List.take_of_length_le (by omega)
    rw [link, Header.read?_words]
    simp [hdeclared, htake, UInt16.not_lt.mpr h, hshort]

/-- A link takes what is written of its segment, and nothing else. -/
theorem stored_of_link {offset : Nat} {data rest : Bytes} {segment : Segment}
    (h : link offset data = .ok (segment, rest)) :
    segment.Valid ∧ data = segment.stored ++ rest := by
  unfold link at h
  split at h
  · simp at h
  · rename_i header behind hread
    have hdata := Header.eq_of_read? hread
    dsimp only at h
    split_ifs at h with hlast hlen
    have hle : header.start ≤ header.last := UInt16.not_lt.mp hlast
    have hnat : header.start.toNat ≤ header.last.toNat := hle
    obtain ⟨rfl, rfl⟩ : _ = segment ∧ _ = rest := by simpa using h
    have hdeclared := Header.declared_eq hle
    refine ⟨⟨hle, ?_⟩, ?_⟩
    · rw [List.length_take] at hlen ⊢
      dsimp only
      omega
    · simp [Segment.stored, hdata]

theorem ending_of_link {offset : Nat} {data : Bytes} {stop : Option Warning}
    (h : link offset data = .error stop) : Ending offset data stop := by
  unfold link at h
  split at h
  · rename_i hread
    obtain rfl : none = stop := by simpa using h
    exact .short (Header.length_lt_of_read?_none hread)
  · rename_i header behind hread
    rw [Header.eq_of_read? hread]
    dsimp only at h
    split_ifs at h with hlast hlen
    · obtain rfl := Except.error.inj h
      exact .malformed behind hlast
    · have hle : header.start ≤ header.last := UInt16.not_lt.mp hlast
      rw [List.length_take] at hlen
      have hshort : behind.length < header.declared := by omega
      rw [List.take_of_length_le (Nat.le_of_lt hshort), Header.declared_eq hle] at h
      rw [Header.declared_eq hle] at hshort
      obtain rfl := Except.error.inj h
      exact .truncated behind hle hshort

/-- Bytes are an ending unless a segment stands in front of them. -/
theorem exists_ending_iff {offset : Nat} {data : Bytes} :
    (∃ stop, Ending offset data stop) ↔
      ¬∃ (segment : Segment) (behind : Bytes), segment.Valid ∧ data = segment.stored ++ behind := by
  constructor
  · rintro ⟨stop, hending⟩ ⟨segment, behind, hvalid, rfl⟩
    have hstop := link_of_ending hending
    rw [link_stored offset hvalid] at hstop
    simp at hstop
  · intro hnone
    cases hlink : link offset data with
    | error stop => exact ⟨stop, ending_of_link hlink⟩
    | ok found => exact absurd ⟨found.1, found.2, stored_of_link hlink⟩ hnone

/-- The walk over written segments gives them back, and goes on behind them. -/
theorem ofBytes_stored_append (offset : Nat) {segments : List Segment}
    (hvalid : ∀ segment ∈ segments, segment.Valid) (rest : Bytes) :
    ofBytes offset (stored segments ++ rest) =
      let behind := ofBytes (offset + (stored segments).length) rest
      ⟨segments ++ behind.segments, behind.stop⟩ := by
  induction segments generalizing offset with
  | nil => rfl
  | cons segment segments ih =>
    have hlink := link_stored offset (hvalid segment (by simp)) (stored segments ++ rest)
    have hoffset : offset + (stored (segment :: segments)).length =
        offset + headerSize + segment.size + (stored segments).length := by
      rw [stored_cons, List.length_append, Segment.length_stored]
      omega
    rw [hoffset, stored_cons, List.append_assoc, ofBytes_of_link_ok hlink,
      ih _ fun other hother => hvalid other (by simp [hother])]
    rfl

theorem ofBytes_stored (offset : Nat) {segments : List Segment} {rest : Bytes}
    {stop : Option Warning} (hvalid : ∀ segment ∈ segments, segment.Valid)
    (hrest : Ending (offset + (stored segments).length) rest stop) :
    ofBytes offset (stored segments ++ rest) = ⟨segments, stop⟩ := by
  rw [ofBytes_stored_append offset hvalid, ofBytes_of_link_error (link_of_ending hrest)]
  simp

/-- The walk accounts for all bytes: the segments as written, and an ending. -/
theorem exists_ending_ofBytes (offset : Nat) (data : Bytes) :
    (∀ segment ∈ (ofBytes offset data).segments, segment.Valid) ∧
      ∃ rest, data = stored (ofBytes offset data).segments ++ rest ∧
        Ending (offset + (stored (ofBytes offset data).segments).length) rest
          (ofBytes offset data).stop := by
  cases hlink : link offset data with
  | error stop =>
    rw [ofBytes_of_link_error hlink]
    exact ⟨by simp, data, rfl, ending_of_link hlink⟩
  | ok found =>
    obtain ⟨segment, behind⟩ := found
    obtain ⟨hvalid, hdata⟩ := stored_of_link hlink
    obtain ⟨hothers, rest, hbehind, hrest⟩ :=
      exists_ending_ofBytes (offset + headerSize + segment.size) behind
    rw [ofBytes_of_link_ok hlink]
    refine ⟨?_, rest, ?_, ?_⟩
    · simpa [cons] using ⟨hvalid, hothers⟩
    · simp only [cons, stored_cons, List.append_assoc, ← hbehind, ← hdata]
    · simpa [cons, Segment.length_stored, Nat.add_assoc] using hrest
termination_by data.length
decreasing_by exact length_lt_of_link hlink

theorem markerOf_append_drop (data : Bytes) :
    markerOf data ++ data.drop (markerOf data).length = data := by
  unfold markerOf
  split_ifs with h
  · obtain ⟨behind, rfl⟩ := List.isPrefixOf_iff_prefix.mp h.2
    rw [List.drop_left]
  · rfl

theorem markerOf_eq (data : Bytes) :
    markerOf data = if 3 ≤ data.length ∧ [0xFF, 0xFF] <+: data then data.take 2 else [] := by
  unfold markerOf
  split_ifs with h hspec hspec
  · obtain ⟨behind, rfl⟩ := hspec.2
    rfl
  · exact absurd ⟨h.1, List.isPrefixOf_iff_prefix.mp h.2⟩ hspec
  · exact absurd ⟨hspec.1, List.isPrefixOf_iff_prefix.mpr hspec.2⟩ h
  · rfl

/-- A word in front of a file is a marker exactly if it is the topmost address. -/
theorem marker_isPrefixOf_ofWord_append (w : UInt16) (behind : Bytes) :
    marker.isPrefixOf (Bytes.ofWord w ++ behind) = true ↔ w = 0xFFFF := by
  have hmarker : marker = Bytes.ofWord 0xFFFF := by decide
  rw [List.isPrefixOf_iff_prefix, hmarker]
  constructor
  · rintro ⟨tail, htail⟩
    have hwords := List.append_inj_left htail (by rw [Bytes.length_ofWord, Bytes.length_ofWord])
    exact (Bytes.ofWord_injective hwords).symm
  · rintro rfl
    exact List.prefix_append _ _

theorem ofFile_stored {front : Bytes} {segments : List Segment} {rest : Bytes}
    {stop : Option Warning} (hfront : markerOf (front ++ stored segments ++ rest) = front)
    (hvalid : ∀ segment ∈ segments, segment.Valid)
    (hrest : Ending (front.length + (stored segments).length) rest stop) :
    ofFile (front ++ stored segments ++ rest) = ⟨segments, stop⟩ := by
  rw [ofFile, hfront, List.append_assoc, List.drop_left]
  exact ofBytes_stored front.length hvalid hrest

/-- A file has no segments exactly if none stands in front, behind the marker. -/
theorem segments_ofFile_eq_nil_iff {data : Bytes} :
    (ofFile data).segments = [] ↔
      ∃ stop, Ending (markerOf data).length (data.drop (markerOf data).length) stop := by
  unfold ofFile
  constructor
  · intro hnil
    obtain ⟨-, rest, hbody, hrest⟩ :=
      exists_ending_ofBytes (markerOf data).length (data.drop (markerOf data).length)
    rw [hnil] at hbody hrest
    rw [hbody]
    exact ⟨_, hrest⟩
  · rintro ⟨stop, hending⟩
    rw [ofBytes_of_link_error (link_of_ending hending)]

theorem exists_ending_ofFile (data : Bytes) :
    (∀ segment ∈ (ofFile data).segments, segment.Valid) ∧
      ∃ rest, data = markerOf data ++ stored (ofFile data).segments ++ rest ∧
        Ending (data.length - rest.length) rest (ofFile data).stop := by
  have hdata := markerOf_append_drop data
  obtain ⟨hvalid, rest, hbody, hrest⟩ :=
    exists_ending_ofBytes (markerOf data).length (data.drop (markerOf data).length)
  have hfile : data = markerOf data ++ stored (ofFile data).segments ++ rest := by
    rw [List.append_assoc]
    exact hdata.symm.trans (congrArg (markerOf data ++ ·) hbody)
  have hoffset : data.length - rest.length =
      (markerOf data).length + (stored (ofFile data).segments).length := by
    have hlen := congrArg List.length hfile
    rw [List.length_append, List.length_append] at hlen
    omega
  exact ⟨hvalid, rest, hfile, hoffset ▸ hrest⟩

end Chain
end Load
end Atari6502
