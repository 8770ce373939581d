import AdmissionControl.Text.Blank
import AdmissionControl.Wire.Fault

/-!
# Fields of a line

A field is a token with an equals sign: what stands before the first one is its key, the rest its
value. Other tokens are passed over, and of several fields with one key the first counts.
-/

namespace AdmissionControl.Wire

open Text

/-- The fields among tokens, in order, each as its key and value. -/
abbrev Fields := List (List Char × List Char)

/-- The fields among tokens. -/
def Fields.ofTokens (tokens : List (List Char)) : Fields := tokens.filterMap (cut? '=')

namespace Fields

/-- The value of a key, if a field has it. -/
def get? (fields : Fields) (key : String) : Option (List Char) := fields.lookup key.toList

/-- The value of a key as `read` reads it. A value that does not read is a fault. -/
def read? {α : Type} (fields : Fields) (key : String) (read : List Char → Option α) :
    Except Fault (Option α) :=
  match fields.get? key with
  | none => .ok none
  | some value =>
      match read value with
      | some result => .ok (some result)
      | none => .error (.malformedField key value)

/-- The value of a key that has to be present. -/
def require {α : Type} (fields : Fields) (key : String) (read : List Char → Option α) :
    Except Fault α :=
  match fields.read? key read with
  | .ok (some result) => .ok result
  | .ok none => .error (.missingField key)
  | .error fault => .error fault

end Fields

/-- Reads a flag, which is one of the digits zero and one. -/
def readFlag? (value : List Char) : Option Bool :=
  if value = ['0'] then some false else if value = ['1'] then some true else none

/-- The digit of a flag. -/
def writeFlag (flag : Bool) : List Char := if flag then ['1'] else ['0']

/-- Reads a 16-bit word. -/
def readUInt16? (value : List Char) : Option UInt16 :=
  (Numeral.readBelow? UInt16.size value).map UInt16.ofNat

/-- Reads a 32-bit word. -/
def readUInt32? (value : List Char) : Option UInt32 :=
  (Numeral.readBelow? UInt32.size value).map UInt32.ofNat

end AdmissionControl.Wire
