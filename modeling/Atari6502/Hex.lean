import Atari6502.Address

/-! Hexadecimal text of bytes, words and file offsets. -/
namespace Atari6502.Hex

/-- The upper-case digit of `n`, for `n` below 16. -/
def digit (n : Nat) : Char :=
  if n < 10 then Char.ofNat (48 + n) else Char.ofNat (55 + n)

/-- Two digits. -/
def byte (b : UInt8) : String :=
  String.ofList [digit (b.toNat / 16), digit (b.toNat % 16)]

/-- Four digits. -/
def word (w : UInt16) : String :=
  String.ofList [digit (w.toNat / 4096), digit (w.toNat / 256 % 16),
    digit (w.toNat / 16 % 16), digit (w.toNat % 16)]

/-- A file offset: lower case, marked `0x`, at least four digits. -/
def offset (n : Nat) : String :=
  let digits := Nat.toDigits 16 n
  "0x" ++ String.ofList (List.replicate (4 - digits.length) '0' ++ digits)

/-- Bytes in order, a blank between two. -/
def spaced (bytes : Bytes) : String :=
  " ".intercalate (bytes.map byte)

end Atari6502.Hex
