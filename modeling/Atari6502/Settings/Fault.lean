import Atari6502.Bytes
import Atari6502.Decimal.Shortest
import Atari6502.Text.Quoted

/-! What can be wrong with a settings document. -/
namespace Atari6502.Settings

/-- A value that stands where another kind is expected. -/
inductive Found where
  | null
  | bool (value : Bool)
  | integer (value : Int)
  | real (value : Float)
  | text (value : String)
  | sequence
  | map

def Found.message : Found → String
  | null => "null"
  | bool value => s!"boolean `{value}`"
  | integer value => s!"integer `{value}`"
  | real value =>
    let digits := ((Decimal.Binary.ofFloat? value).map Decimal.Binary.general).getD "null"
    s!"floating point `{digits}`"
  | text value => "string " ++ Text.quote value
  | sequence => "sequence"
  | map => "map"

/-- What can be wrong with a settings document. -/
inductive Cause where
  | endInValue
  | endInString
  | endInList
  | endInObject
  | expectedColon
  | expectedCommaOrListEnd
  | expectedCommaOrObjectEnd
  | expectedWord
  | expectedValue
  | badEscape
  | badNumber
  | numberOutOfRange
  | endOfHexEscape
  | loneSurrogate
  | controlCharacter
  | keyNotString
  | trailingComma
  | trailingCharacters
  | wrongKind (found : Found) (expected : String)
  | outOfRange (value : Int) (expected : String)
  | duplicate (name : String)

def Cause.message : Cause → String
  | endInValue => "EOF while parsing a value"
  | endInString => "EOF while parsing a string"
  | endInList => "EOF while parsing a list"
  | endInObject => "EOF while parsing an object"
  | expectedColon => "expected `:`"
  | expectedCommaOrListEnd => "expected `,` or `]`"
  | expectedCommaOrObjectEnd => "expected `,` or `\x7d`"
  | expectedWord => "expected ident"
  | expectedValue => "expected value"
  | badEscape => "invalid escape"
  | badNumber => "invalid number"
  | numberOutOfRange => "number out of range"
  | endOfHexEscape => "unexpected end of hex escape"
  | loneSurrogate => "lone leading surrogate in hex escape"
  | controlCharacter => "control character (\\u0000-\\u001F) found while parsing a string"
  | keyNotString => "key must be a string"
  | trailingComma => "trailing comma"
  | trailingCharacters => "trailing characters"
  | wrongKind found expected => "invalid type: " ++ found.message ++ ", expected " ++ expected
  | outOfRange value expected => s!"invalid value: integer `{value}`, expected {expected}"
  | duplicate name => s!"duplicate field `{name}`"

/-- What is wrong with a settings document, and where: after `column` bytes of a line. -/
structure Fault where
  cause : Cause
  line : Nat
  column : Nat

namespace Fault

/-- The fault `position` bytes into `document`. -/
def locate (document : Bytes) (position : Nat) (cause : Cause) : Fault :=
  let before := document.take position
  let lineFeed : UInt8 := 10
  { cause
    line := before.count lineFeed + 1
    column := (before.reverse.takeWhile (· != lineFeed)).length }

def message (fault : Fault) : String :=
  s!"{fault.cause.message} at line {fault.line} column {fault.column}"

end Fault
end Atari6502.Settings
