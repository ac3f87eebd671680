import Atari6502.Settings.Fault

/-!
Scanning settings documents, byte by byte. A scanner takes the bytes that are not yet read and
returns what it leaves of them; a fault is located by their number.
-/
namespace Atari6502.Settings

namespace Ascii

abbrev quote : UInt8 := 0x22
abbrev plus : UInt8 := 0x2B
abbrev comma : UInt8 := 0x2C
abbrev minus : UInt8 := 0x2D
abbrev point : UInt8 := 0x2E
abbrev slash : UInt8 := 0x2F
abbrev zero : UInt8 := 0x30
abbrev colon : UInt8 := 0x3A
abbrev upperE : UInt8 := 0x45
abbrev openList : UInt8 := 0x5B
abbrev backslash : UInt8 := 0x5C
abbrev closeList : UInt8 := 0x5D
abbrev lowerB : UInt8 := 0x62
abbrev lowerE : UInt8 := 0x65
abbrev lowerF : UInt8 := 0x66
abbrev lowerN : UInt8 := 0x6E
abbrev lowerR : UInt8 := 0x72
abbrev lowerT : UInt8 := 0x74
abbrev lowerU : UInt8 := 0x75
abbrev openObject : UInt8 := 0x7B
abbrev closeObject : UInt8 := 0x7D

/-- Space, tab, line feed or carriage return. -/
def isBlank (b : UInt8) : Bool :=
  b == 0x20 || b == 0x09 || b == 0x0A || b == 0x0D

def isDigit (b : UInt8) : Bool :=
  0x30 ≤ b && b ≤ 0x39

/-- The value of a decimal digit. -/
def digit (b : UInt8) : Nat :=
  b.toNat - 0x30

/-- The value of a hexadecimal digit. -/
def hexDigit? (b : UInt8) : Option Nat :=
  if isDigit b then some (digit b)
  else if 0x41 ≤ b && b ≤ 0x46 then some (b.toNat - 0x37)
  else if 0x61 ≤ b && b ≤ 0x66 then some (b.toNat - 0x57)
  else none

end Ascii

/-- Why and where scanning stopped: `unread` bytes before the end of the document. -/
structure Stop where
  cause : Cause
  unread : Nat

namespace Stop

/-- A fault right before the unread bytes. -/
def before (cause : Cause) (s : Bytes) : Stop :=
  ⟨cause, s.length⟩

/-- A fault at the first unread byte: it is placed behind it, if there is one. -/
def behind (cause : Cause) (s : Bytes) : Stop :=
  ⟨cause, s.length - 1⟩

end Stop

namespace Scan

def skipBlanks (s : Bytes) : Bytes :=
  s.dropWhile Ascii.isBlank

theorem length_skipBlanks_le (s : Bytes) : (skipBlanks s).length ≤ s.length :=
  (List.dropWhile_sublist _).length_le

theorem length_lt_of_skipBlanks {b : UInt8} {s r : Bytes} (h : skipBlanks s = b :: r) :
    r.length < s.length := by
  have hle := length_skipBlanks_le s
  rw [h] at hle
  exact hle

/-- Of two scanners in a row, the second goes on where the first has stopped. -/
theorem exists_of_bind_eq_ok {α β : Type} {first : Except Stop α} {next : α → Except Stop β} {b : β}
    (h : first >>= next = .ok b) : ∃ a, first = .ok a ∧ next a = .ok b := by
  cases first with
  | error stop => cases h
  | ok a => exact ⟨a, rfl, h⟩

/-- Takes the letters of a word. -/
def word : Bytes → Bytes → Except Stop Bytes
  | [], s => .ok s
  | _ :: _, [] => .error (.before .endInValue [])
  | letter :: letters, b :: s =>
    if b = letter then word letters s else .error (.before .expectedWord s)

theorem length_word_le {letters s r : Bytes} (h : word letters s = .ok r) :
    r.length ≤ s.length := by
  induction letters generalizing s with
  | nil =>
    unfold word at h
    cases h
    exact Nat.le_refl _
  | cons letter letters ih =>
    unfold word at h
    cases s with
    | nil => cases h
    | cons b s =>
      dsimp only at h
      split at h
      · exact Nat.le_succ_of_le (ih h)
      · cases h

end Scan
end Atari6502.Settings
