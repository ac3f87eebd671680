/-!
Control functions of terminals: an escape character, what it introduces, and the character that ends
it. A text is shown without them.
-/
namespace Atari6502.Text

/-- What a terminal waits for. -/
inductive Control where
  /-- No control function is open. -/
  | ground
  /-- An escape character was the last. -/
  | escape
  /-- The end of a function that has no parameters. -/
  | intermediate
  /-- The end of a sequence with parameters. -/
  | sequence
  /-- The parameters of a device string. -/
  | deviceEntry
  | deviceParameter
  | deviceIntermediate
  /-- The terminator of a string. -/
  | string
  /-- The bell that ends a command to the operating system. -/
  | command
deriving DecidableEq, Repr

namespace Control

/-- The byte that terminates a string. A character that holds it in UTF-8 does so too. -/
def isTerminator (c : Char) : Bool :=
  (String.utf8EncodeChar c).contains 0x9C

/-- Moves on behind a character. Cancel and substitute end every function, and an escape character
begins one anywhere; other controls and characters beyond ASCII leave a sequence open. -/
def next (state : Control) (c : Char) : Control :=
  let n := c.toNat
  let isControl : Bool := n < 0x20 || 0x7F ≤ n
  if n = 0x18 ∨ n = 0x1A then ground
  else if n = 0x1B then escape
  else
    match state with
    | ground => ground
    | escape =>
      if isControl then escape
      else if n < 0x30 then intermediate
      else if c = '[' then sequence
      else if c = ']' then command
      else if c = 'P' then deviceEntry
      else if c = 'X' ∨ c = '^' ∨ c = '_' then string
      else ground
    | intermediate => if isControl || n < 0x30 then intermediate else ground
    | sequence => if isControl || n < 0x40 then sequence else ground
    | deviceEntry =>
      if isControl then deviceEntry
      else if n < 0x30 then deviceIntermediate
      else if n < 0x40 then deviceParameter
      else string
    | deviceParameter =>
      if isControl then deviceParameter
      else if n < 0x30 then deviceIntermediate
      else if n < 0x3C then deviceParameter
      else string
    | deviceIntermediate => if isControl || n < 0x30 then deviceIntermediate else string
    | string => if isTerminator c then ground else string
    | command => if n = 0x07 then ground else command

/-- Tab, line feed, form feed or carriage return. -/
def isSpacing (c : Char) : Bool :=
  c == '\t' || c == '\n' || c == '\x0c' || c == '\r'

/-- Whether a character shows. Spacing shows inside a sequence too, but not inside a string. -/
def shows (state : Control) (c : Char) : Bool :=
  match state with
  | ground => isSpacing c || (0x20 ≤ c.toNat && c.toNat != 0x7F)
  | escape | intermediate | sequence => isSpacing c
  | deviceEntry | deviceParameter | deviceIntermediate | string | command => false

/-- What is shown of a text. While `isShowing`, characters show as they do on the ground, also where
spacing has interrupted a sequence; the next control character takes the sequence up again, unless a
character beyond ASCII came before it. -/
def shown (isShowing : Bool) (state : Control) : List Char → List Char
  | [] => []
  | c :: cs =>
    if isShowing then
      if ground.shows c then c :: shown true (if 0x80 ≤ c.toNat then ground else state) cs
      else shown false (state.next c) cs
    else if state.shows c then c :: shown true (state.next c) cs
    else shown false (state.next c) cs

end Control

/-- The text without control characters and control functions. -/
def visible (s : String) : String :=
  String.ofList (Control.shown false .ground s.toList)

end Atari6502.Text
