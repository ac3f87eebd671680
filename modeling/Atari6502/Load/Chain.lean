import Atari6502.Load.Warning
import Atari6502.Segment

/-!
The segments in a file. They stand one behind the other, each a header of two words, the first and
the last address, and then the data; a marker may stand before the first.
-/
namespace Atari6502.Load

/-- What may stand before the first segment. -/
def marker : Bytes := [0xFF, 0xFF]

/-- A file with fewer bytes has no marker. -/
def markerMinimum : Nat := 3

/-- Bytes of a segment's header. -/
def headerSize : Nat := 4

/-- The addresses that a segment claims. -/
structure Header where
  start : Address
  last : Address
deriving DecidableEq, Repr

namespace Header

/-- The header in front of `data`, and what follows it. -/
def read? : Bytes → Option (Header × Bytes)
  | startLo :: startHi :: lastLo :: lastHi :: rest =>
    some (⟨Bytes.word startLo startHi, Bytes.word lastLo lastHi⟩, rest)
  | _ => none

/-- The number of bytes that have to follow the header. -/
def declared (header : Header) : Nat :=
  (header.last - header.start).toNat + 1

theorem length_of_read? {data rest : Bytes} {header : Header}
    (h : read? data = some (header, rest)) : data.length = headerSize + rest.length := by
  unfold read? at h
  split at h
  · obtain ⟨-, rfl⟩ : _ ∧ _ = rest := by simpa using h
    simp only [List.length_cons, headerSize]
    omega
  · simp at h

end Header

/-- Segments in order, and what was wrong with the one behind them. -/
structure Chain where
  segments : List Segment := []
  stop : Option Warning := none
deriving DecidableEq, Repr

namespace Chain

/-- The chain with a segment in front. -/
def cons (segment : Segment) (chain : Chain) : Chain :=
  { chain with segments := segment :: chain.segments }

/-- One link: the first segment of `data`, which stand `offset` bytes into the file, and what follows
it; or why there is none. -/
def link (offset : Nat) (data : Bytes) : Except (Option Warning) (Segment × Bytes) :=
  match Header.read? data with
  | none => .error none
  | some (header, rest) =>
    let payload := rest.take header.declared
    if header.last < header.start then
      .error (some (.malformed offset header.start header.last))
    else if payload.length < header.declared then
      .error (some (.truncated offset header.start header.last header.declared payload.length))
    else
      .ok (⟨header.start, header.last, payload⟩, rest.drop header.declared)

theorem length_of_link {offset : Nat} {data rest : Bytes} {segment : Segment}
    (h : link offset data = .ok (segment, rest)) :
    data.length = headerSize + segment.size + rest.length := by
  unfold link at h
  split at h
  · simp at h
  · rename_i header behind hread
    have hlen := Header.length_of_read? hread
    dsimp only at h
    split at h
    · simp at h
    · split at h
      · simp at h
      · obtain ⟨rfl, rfl⟩ : _ = segment ∧ _ = rest := by simpa using h
        simp only [Segment.size, List.length_take, List.length_drop]
        omega

theorem length_lt_of_link {offset : Nat} {data rest : Bytes} {segment : Segment}
    (h : link offset data = .ok (segment, rest)) : rest.length < data.length := by
  have hlen := length_of_link h
  have hpos : 0 < headerSize := by decide
  omega

private def follow (offset : Nat) (data : Bytes) (done : List Segment) : Chain :=
  match _h : link offset data with
  | .error stop => ⟨done.reverse, stop⟩
  | .ok (segment, rest) => follow (offset + headerSize + segment.size) rest (segment :: done)
termination_by data.length
decreasing_by exact length_lt_of_link _h

/-- The chain in `data`, which stand `offset` bytes into the file. -/
def ofBytes (offset : Nat) (data : Bytes) : Chain :=
  follow offset data []

private theorem follow_error {offset : Nat} {data : Bytes} {stop : Option Warning}
    (done : List Segment) (h : link offset data = .error stop) :
    follow offset data done = ⟨done.reverse, stop⟩ := by
  rw [follow]
  split <;> simp_all

private theorem follow_ok {offset : Nat} {data rest : Bytes} {segment : Segment}
    (done : List Segment) (h : link offset data = .ok (segment, rest)) :
    follow offset data done =
      follow (offset + headerSize + segment.size) rest (segment :: done) := by
  rw [follow]
  split
  · simp_all
  · rename_i found behind hlink
    obtain ⟨rfl, rfl⟩ : segment = found ∧ rest = behind := by simpa using h.symm.trans hlink
    rfl

private theorem follow_eq (offset : Nat) (data : Bytes) (done : List Segment) :
    follow offset data done =
      ⟨done.reverse ++ (follow offset data []).segments, (follow offset data []).stop⟩ := by
  cases h : link offset data with
  | error stop => simp [follow_error _ h]
  | ok found =>
    obtain ⟨segment, rest⟩ := found
    rw [follow_ok _ h, follow_ok _ h, follow_eq _ _ (segment :: done), follow_eq _ _ [segment]]
    simp
termination_by data.length
decreasing_by all_goals exact length_lt_of_link h

theorem ofBytes_of_link_error {offset : Nat} {data : Bytes} {stop : Option Warning}
    (h : link offset data = .error stop) : ofBytes offset data = ⟨[], stop⟩ := by
  simp [ofBytes, follow_error _ h]

theorem ofBytes_of_link_ok {offset : Nat} {data rest : Bytes} {segment : Segment}
    (h : link offset data = .ok (segment, rest)) :
    ofBytes offset data = (ofBytes (offset + headerSize + segment.size) rest).cons segment := by
  rw [ofBytes, follow_ok _ h, follow_eq]
  rfl

/-- The marker of a file, or nothing. -/
def markerOf (data : Bytes) : Bytes :=
  if markerMinimum ≤ data.length ∧ marker.isPrefixOf data then marker else []

/-- The chain of a file, behind the marker if there is one. -/
def ofFile (data : Bytes) : Chain :=
  let skipped := (markerOf data).length
  ofBytes skipped (data.drop skipped)

end Chain
end Atari6502.Load
