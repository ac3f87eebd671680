/-! White space, columns of text, and lines. -/
namespace Atari6502.Text

/-- Code points with the Unicode property `White_Space`, as closed ranges. -/
def blankRanges : List (Nat × Nat) :=
  [(0x0009, 0x000D), (0x0020, 0x0020), (0x0085, 0x0085), (0x00A0, 0x00A0), (0x1680, 0x1680),
   (0x2000, 0x200A), (0x2028, 0x2029), (0x202F, 0x202F), (0x205F, 0x205F), (0x3000, 0x3000)]

def isBlank (c : Char) : Bool :=
  blankRanges.any fun range => range.1 ≤ c.toNat && c.toNat ≤ range.2

/-- The text without the white space at its end. -/
def trimEnd (s : String) : String :=
  String.ofList (s.toList.reverse.dropWhile isBlank).reverse

/-- The text filled with blanks up to `width` characters; a longer text stays whole. -/
def column (width : Nat) (s : String) : String :=
  s.pushn ' ' (width - s.length)

/-- Lines, with a line feed between two. -/
def joinLines (lines : List String) : String :=
  "\n".intercalate lines

/-- The lines of a text. A line feed ends a line, and a carriage return before it belongs to the end. -/
def splitLines (s : String) : List String :=
  (s.splitOn "\n").map fun line =>
    match line.toList.reverse with
    | '\r' :: rest => String.ofList rest.reverse
    | _ => line

end Atari6502.Text
