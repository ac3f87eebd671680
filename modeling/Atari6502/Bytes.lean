/-! Byte sequences and the words stored in them. -/
namespace Atari6502

abbrev Bytes := List UInt8

namespace Bytes

/-- The word whose low byte is stored first. -/
def word (lo hi : UInt8) : UInt16 :=
  lo.toUInt16 + 256 * hi.toUInt16

/-- A word as it is stored, low byte first. -/
def ofWord (w : UInt16) : Bytes :=
  [w.toUInt8, (w >>> 8).toUInt8]

/-- The UTF-8 form of a text. -/
def ofString (s : String) : Bytes :=
  s.toUTF8.data.toList

/-- The text that the bytes spell in UTF-8. -/
def toString? (bytes : Bytes) : Option String :=
  String.fromUTF8? ⟨bytes.toArray⟩

end Bytes
end Atari6502
