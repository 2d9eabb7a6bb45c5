import AmqpReturns.Decimal.Shortest
import AmqpReturns.Text.Quoted

/-!
# Json — faults

Why a text could not be read.  Reading stops at the first fault, in the order of the text.
-/

namespace AmqpReturns.Json

/-- What stood where something else was asked for. -/
inductive Found where
  | null
  | boolean (v : Bool)
  | integer (v : Int)
  /-- A number that is not kept as an integer, by its double-precision bits. -/
  | real (bits : UInt64)
  | text (v : String)
  | sequence
  | map
  deriving DecidableEq, Repr

/-- The wording of what was found. -/
def Found.describe : Found → String
  | .null => "null"
  | .boolean v => "boolean `" ++ (if v then "true" else "false") ++ "`"
  | .integer v => "integer `" ++ toString v ++ "`"
  | .real bits => "floating point `" ++ Decimal.write .message bits ++ "`"
  | .text v => "string " ++ Text.Quoted.quote v
  | .sequence => "sequence"
  | .map => "map"

/-- Why a text could not be read. -/
inductive Fault where
  | endInValue
  | endInString
  | endInList
  | endInObject
  | expectedValue
  /-- A word that begins like `null`, `true` or `false` and is none of them. -/
  | expectedIdent
  | expectedColon
  | expectedListEnd
  | expectedObjectEnd
  | trailingComma
  | trailingCharacters
  | keyNotString
  | invalidNumber
  | numberOutOfRange
  | invalidEscape
  /-- Half of a surrogate pair. -/
  | loneSurrogate
  /-- The first half of a surrogate pair with no escape after it. -/
  | unfinishedPair
  | controlCharacter
  /-- A value of a kind that was not asked for. -/
  | wrongType (found : Found) (expected : String)
  /-- An integer outside the range that was asked for. -/
  | wrongValue (value : Int) (expected : String)
  | duplicateField (name : String)
  deriving DecidableEq, Repr

/-- The wording of a fault. -/
def Fault.message : Fault → String
  | .endInValue => "EOF while parsing a value"
  | .endInString => "EOF while parsing a string"
  | .endInList => "EOF while parsing a list"
  | .endInObject => "EOF while parsing an object"
  | .expectedValue => "expected value"
  | .expectedIdent => "expected ident"
  | .expectedColon => "expected `:`"
  | .expectedListEnd => "expected `,` or `]`"
  | .expectedObjectEnd => "expected `,` or `\x7d`"
  | .trailingComma => "trailing comma"
  | .trailingCharacters => "trailing characters"
  | .keyNotString => "key must be a string"
  | .invalidNumber => "invalid number"
  | .numberOutOfRange => "number out of range"
  | .invalidEscape => "invalid escape"
  | .loneSurrogate => "lone leading surrogate in hex escape"
  | .unfinishedPair => "unexpected end of hex escape"
  | .controlCharacter => "control character (\\u0000-\\u001F) found while parsing a string"
  | .wrongType found expected => "invalid type: " ++ found.describe ++ ", expected " ++ expected
  | .wrongValue value expected =>
    "invalid value: integer `" ++ toString value ++ "`, expected " ++ expected
  | .duplicateField name => "duplicate field `" ++ name ++ "`"

/-- What reading a part of a text gives: the value read and the rest of the text. -/
abbrev Read (α : Type) := Except Fault (α × List Char)

end AmqpReturns.Json
