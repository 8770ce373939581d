import AdmissionControl.Text.Numeral

/-!
# Faults of JSON texts

A text that is no JSON document is refused with a cause and the place at which reading ended. Places
count lines from one, and bytes within a line from the one that was read first.
-/

namespace AdmissionControl.Json

/-- Why a text is no JSON document. -/
inductive Cause where
  | endInList
  | endInTable
  | endInText
  | endInValue
  | noColon
  | noListEnd
  | noTableEnd
  | unknownWord
  | noValue
  | badEscape
  | badNumber
  /-- A number is too large for binary64. -/
  | numberOutOfRange
  /-- The bytes of a quoted text encode no characters. -/
  | undecodable
  | controlCharacter
  | noKey
  /-- Of two halves of a character the wrong one, or none, stands where the other is wanted. -/
  | unpairedHalf
  /-- No escape follows the first half of a character. -/
  | missingHalf
  | trailingComma
  | trailingCharacters
  | tooDeep
deriving DecidableEq

/-- The wording of a cause. -/
def Cause.message : Cause → String
  | .endInList => "EOF while parsing a list"
  | .endInTable => "EOF while parsing an object"
  | .endInText => "EOF while parsing a string"
  | .endInValue => "EOF while parsing a value"
  | .noColon => "expected `:`"
  | .noListEnd => "expected `,` or `]`"
  | .noTableEnd => "expected `,` or `\x7d`"
  | .unknownWord => "expected ident"
  | .noValue => "expected value"
  | .badEscape => "invalid escape"
  | .badNumber => "invalid number"
  | .numberOutOfRange => "number out of range"
  | .undecodable => "invalid unicode code point"
  | .controlCharacter => "control character (\\u0000-\\u001F) found while parsing a string"
  | .noKey => "key must be a string"
  | .unpairedHalf => "lone leading surrogate in hex escape"
  | .missingHalf => "unexpected end of hex escape"
  | .trailingComma => "trailing comma"
  | .trailingCharacters => "trailing characters"
  | .tooDeep => "recursion limit exceeded"

/-- How far a text has been read. -/
structure Place where
  line : Nat := 1
  /-- The number of bytes that have been read of the line. -/
  column : Nat := 0
deriving DecidableEq

/-- The place after one more byte. -/
def Place.after (place : Place) (byte : UInt8) : Place :=
  if byte = 10 then ⟨place.line + 1, 0⟩ else ⟨place.line, place.column + 1⟩

/-- Why and where reading ended. -/
structure Fault where
  cause : Cause
  place : Place
deriving DecidableEq

/-- The wording of a fault. -/
def Fault.write (fault : Fault) : List Char :=
  fault.cause.message.toList ++ " at line ".toList ++ Text.Numeral.write fault.place.line
    ++ " column ".toList ++ Text.Numeral.write fault.place.column

end AdmissionControl.Json
