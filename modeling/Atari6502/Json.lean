import Atari6502.Hex

/-! JSON values and their text. -/
namespace Atari6502

inductive Json where
  | null
  | bool (value : Bool)
  | nat (value : Nat)
  | str (text : String)
  | arr (items : List Json)
  | obj (members : List (String × Json))

namespace Json

/-- How a character stands in a string. -/
def escape (c : Char) : String :=
  match c with
  | '"' => "\\\""
  | '\\' => "\\\\"
  | '\n' => "\\n"
  | '\r' => "\\r"
  | '\t' => "\\t"
  | '\x08' => "\\b"
  | '\x0c' => "\\f"
  | c =>
    if c.toNat < 0x20 then
      "\\u00" ++ String.ofList [Nat.digitChar (c.toNat / 16), Nat.digitChar (c.toNat % 16)]
    else c.toString

def quote (text : String) : String :=
  text.foldl (fun out c => out ++ escape c) "\"" ++ "\""

/-- Where line breaks go: nowhere, or around every item with two blanks for each level. -/
inductive Layout where
  | compact
  | indented (depth : Nat)

namespace Layout

def inner : Layout → Layout
  | compact => compact
  | indented depth => indented (depth + 1)

def lineBreak : Layout → String
  | compact => ""
  | indented depth => "\n".pushn ' ' (2 * depth)

def colon : Layout → String
  | compact => ":"
  | indented _ => ": "

end Layout

mutual

/-- `out` followed by the text of a value. -/
def write (layout : Layout) (out : String) : Json → String
  | null => out ++ "null"
  | bool value => out ++ if value then "true" else "false"
  | nat value => out ++ toString value
  | str text => out ++ quote text
  | arr [] => out ++ "[]"
  | arr (item :: items) =>
    let inner := layout.inner
    let out := write inner (out ++ "[" ++ inner.lineBreak) item
    writeItems inner out items ++ layout.lineBreak ++ "]"
  | obj [] => out ++ "\x7b\x7d"
  | obj ((key, value) :: members) =>
    let inner := layout.inner
    let out := write inner (out ++ "\x7b" ++ inner.lineBreak ++ quote key ++ inner.colon) value
    writeMembers inner out members ++ layout.lineBreak ++ "\x7d"

/-- `out` followed by the items after the first. -/
def writeItems (layout : Layout) (out : String) : List Json → String
  | [] => out
  | item :: items => writeItems layout (write layout (out ++ "," ++ layout.lineBreak) item) items

/-- `out` followed by the members after the first. -/
def writeMembers (layout : Layout) (out : String) : List (String × Json) → String
  | [] => out
  | (key, value) :: members =>
    let out := write layout (out ++ "," ++ layout.lineBreak ++ quote key ++ layout.colon) value
    writeMembers layout out members

end

/-- The text without any blanks. -/
def compact (value : Json) : String :=
  write .compact "" value

/-- The text with one item to a line. -/
def pretty (value : Json) : String :=
  write (.indented 0) "" value

def ofBytes (bytes : Bytes) : Json :=
  arr (bytes.map fun b => nat b.toNat)

end Json
end Atari6502
