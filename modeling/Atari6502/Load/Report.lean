import Atari6502.Event
import Atari6502.Load.Chain

/-! Loading files. A file that holds no segment is loaded as a whole. -/
namespace Atari6502.Load

/-- What a file was found to hold. -/
structure Report where
  segments : List Segment := []
  warnings : List Warning := []
  /-- The only segment is the whole file. -/
  isRaw : Bool := false
deriving DecidableEq, Repr

/-- The file as one segment at `base`, without what reaches past the top. -/
def rawSegment (base : Address) (data : Bytes) : Segment :=
  let kept := data.take (Address.space - base.toNat)
  ⟨base, base.advance (kept.length - 1), kept⟩

/-- The warning about a raw image that reaches past the top. -/
def rawWarning? (base : Address) (data : Bytes) : Option Warning :=
  let kept := (rawSegment base data).size
  if kept < data.length then some (.clipped base data.length kept) else none

/-- Notes a warning in the log. -/
def Warning.note (warning : Warning) : Logged Warning := do
  Logged.emit (.warned warning)
  return warning

/-- Loads a file. What is wrong with it is noted and reported, and never an error. -/
def load (fallback : Address) (data : Bytes) : Logged Report := do
  let chain := Chain.ofFile data
  let stop ← chain.stop.mapM Warning.note
  if chain.segments.isEmpty && !data.isEmpty then
    let clip ← (rawWarning? fallback data).mapM Warning.note
    return ⟨[rawSegment fallback data], stop.toList ++ clip.toList, true⟩
  else
    return ⟨chain.segments, stop.toList, false⟩

end Atari6502.Load
