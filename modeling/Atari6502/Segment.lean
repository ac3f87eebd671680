import Atari6502.Hex
import Atari6502.Json

/-! Segments: blocks of bytes with the addresses they are loaded to. -/
namespace Atari6502

/-- A block of bytes loaded to the addresses from `start` to `last`. -/
structure Segment where
  start : Address
  last : Address
  data : Bytes
deriving DecidableEq, Repr

namespace Segment

/-- The data fill the addresses from `start` to `last`. -/
def Valid (segment : Segment) : Prop :=
  segment.start ≤ segment.last ∧
    segment.start.toNat + segment.data.length = segment.last.toNat + 1

instance (segment : Segment) : Decidable segment.Valid :=
  inferInstanceAs (Decidable (_ ∧ _))

/-- The segment of `data` loaded at `start`, if there is a last byte and it has an address. -/
def ofData? (start : Address) (data : Bytes) : Option Segment :=
  match data.length with
  | 0 => none
  | offset + 1 => do
    let last ← Address.ofNat? (start.toNat + offset)
    return ⟨start, last, data⟩

def size (segment : Segment) : Nat :=
  segment.data.length

def isEmpty (segment : Segment) : Bool :=
  segment.data.isEmpty

def contains (segment : Segment) (address : Address) : Bool :=
  segment.start ≤ address && address ≤ segment.last

/-- The byte loaded at an address of the segment. -/
def byteAt? (segment : Segment) (address : Address) : Option UInt8 :=
  if segment.contains address then segment.data[(address - segment.start).toNat]? else none

/-- The address of the byte `offset` bytes into the data. -/
def addressOf (segment : Segment) (offset : Nat) : Address :=
  segment.start.advance offset

def label (segment : Segment) (index : Nat) : String :=
  s!"SEG {index}: $" ++ Hex.word segment.start ++ " - $" ++ Hex.word segment.last

def toJson (segment : Segment) : Json :=
  .obj [
    ("start", .nat segment.start.toNat),
    ("end", .nat segment.last.toNat),
    ("data", .ofBytes segment.data)]

end Segment
end Atari6502
