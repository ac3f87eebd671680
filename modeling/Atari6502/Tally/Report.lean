import Atari6502.Decimal.Fixed
import Atari6502.Tally.Basic
import Atari6502.Text.Blank

/-! The report on a disassembly. -/
namespace Atari6502.Tally

/-- A percentage with two places, a half going to the even digit. -/
def percent (share : Float) : String :=
  match Decimal.Binary.ofFloat? (share * 100.0) with
  | some value => value.fixed 2 ++ "%"
  | none => "NaN%"

/-- A count and its share of all entries. -/
def counted (tally : Tally) (count : Nat) : String :=
  let share := Float.ofNat count / Float.ofNat (max tally.instructions 1)
  s!"{count} ({percent share})"

def report (tally : Tally) : String :=
  let frame := "".pushn '=' 58
  let rule := "".pushn '-' 58
  let entry (name value : String) : String := Text.column 25 name ++ value
  Text.joinLines (
    [frame,
     "6502 LISTING STATISTICS",
     frame,
     entry "instructions" s!"{tally.instructions}",
     entry "bytes" s!"{tally.bytes}",
     entry "unknown" s!"{tally.unknown} ({tally.unknownBytes} bytes)",
     entry "coverage" (percent tally.coverage),
     entry "truncated_tail" s!"{tally.truncatedTail}",
     rule,
     "CONTROL FLOW",
     entry "  op.branch" (tally.counted tally.branches),
     entry "  op.jump" (tally.counted tally.jumps),
     rule,
     "ADDRESSING MODES"] ++
    tally.modes.map (fun (mode, count) =>
      "  mode." ++ Text.column 17 mode.tag ++ " " ++ tally.counted count) ++
    [frame])

end Atari6502.Tally
