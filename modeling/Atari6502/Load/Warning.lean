import Atari6502.Hex

/-! What can be wrong with a file that is loaded all the same. -/
namespace Atari6502.Load

/-- What can be wrong with a file that is loaded all the same. -/
inductive Warning where
  /-- The header at `offset` ends before it starts. -/
  | malformed (offset : Nat) (start last : Address)
  /-- The file ends before the data of the segment whose header is at `offset`. -/
  | truncated (offset : Nat) (start last : Address) (declared available : Nat)
  /-- A raw image of `size` bytes reaches past the top, and `kept` of them are left. -/
  | clipped (base : Address) (size kept : Nat)
deriving DecidableEq, Repr

def Warning.message : Warning → String
  | malformed offset start last =>
    "malformed segment at offset " ++ Hex.offset offset ++ ": end $" ++ Hex.word last ++
      " < start $" ++ Hex.word start
  | truncated offset start last declared available =>
    "segment $" ++ Hex.word start ++ "-$" ++ Hex.word last ++ " at offset " ++ Hex.offset offset ++
      s!" truncated: {declared} bytes declared, {available} available"
  | clipped base size kept =>
    s!"raw image of {size} bytes clipped to {kept} bytes at $" ++ Hex.word base

end Atari6502.Load
