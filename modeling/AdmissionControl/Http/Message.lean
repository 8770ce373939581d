import AdmissionControl.Text.Bytes
import AdmissionControl.Text.Numeral

/-!
# HTTP messages

The parts of requests and responses that admission control looks at or changes. Header names are
lower case; one name can have several values, whose order counts.
-/

namespace AdmissionControl.Http

/-- The value of a header. -/
abbrev Value := List UInt8

/-- Whether a byte may stand in a header value: all but control characters, and the tab. -/
def isLegalByte (byte : UInt8) : Bool := byte = 9 || (32 ≤ byte && byte != 127)

/-- Whether bytes can be a header value. -/
def isLegal (value : Value) : Bool := value.all isLegalByte

/-- Whether a byte is visible ASCII, a space or a tab. -/
def isVisibleByte (byte : UInt8) : Bool := byte = 9 || (32 ≤ byte && byte < 127)

/-- The text of a header value, if it is visible ASCII. -/
def readVisible? (value : Value) : Option (List Char) :=
  if value.all isVisibleByte then some (value.map fun byte => Char.ofNat byte.toNat) else none

/-- A header value that holds a number. -/
def ofNumber (number : Nat) : Value := Text.encode (Text.Numeral.write number)

/-- The headers of a message, in order. -/
abbrev Headers := List (List Char × Value)

namespace Headers

/-- The first value of a name. -/
def get? (headers : Headers) (name : String) : Option Value := headers.lookup name.toList

/-- Gives a name one value in place of all it had. -/
def insert (headers : Headers) (name : String) (value : Value) : Headers :=
  headers.filter (·.1 ≠ name.toList) ++ [(name.toList, value)]

end Headers

/-- A request, as far as admission control looks at it. -/
structure Request where
  /-- The path of its target. -/
  path : List Char
  /-- The values of its cookie headers, in order. -/
  cookies : List Value
deriving DecidableEq

/-- A response. -/
structure Response where
  status : UInt16
  headers : Headers
  body : List Char
deriving DecidableEq

end AdmissionControl.Http
