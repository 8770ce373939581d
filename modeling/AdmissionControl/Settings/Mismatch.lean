import AdmissionControl.Binary64.Decimal
import AdmissionControl.Settings.Path
import AdmissionControl.Text.Quoted

/-!
# Values of a wrong kind

A value that a setting cannot take is refused with what was found, what was wanted, and where both
meet: the path of the setting, and the origin of the value. A value in the place of a list or of a
group of settings is refused without that.
-/

namespace AdmissionControl

open Text

/-- What is found where something else is wanted. -/
inductive Found where
  | scalar (value : Scalar)
  /-- A number that is known to have no sign. -/
  | word (number : Nat)
  | list
  | table
deriving DecidableEq

namespace Found

/-- A value between marks, after the name of its kind. -/
def marked (kind : String) (value : List Char) : List Char :=
  kind.toList ++ " `".toList ++ value ++ ['`']

/-- What is found, with the width of whole numbers. -/
def write : Found → List Char
  | .scalar .nothing => "unit value".toList
  | .scalar (.flag value) => marked "boolean" (if value then "true".toList else "false".toList)
  | .scalar (.whole value) => marked "64-bit integer" (Numeral.writeInt value)
  | .scalar (.real value) => marked "floating point" value.write
  | .scalar (.text value) => "string ".toList ++ quote value
  | .word number => marked "64-bit unsigned integer" (Numeral.write number)
  | .list => "sequence".toList
  | .table => "map".toList

/-- A number with a point, which shows that it is no whole one. -/
def withPoint (value : Binary64) : List Char :=
  let text := value.write
  if text.contains '.' || !value.isFinite then text else text ++ ".0".toList

/-- What is found, without the width of whole numbers. -/
def writeBroadly : Found → List Char
  | .scalar (.whole value) => marked "integer" (Numeral.writeInt value)
  | .scalar (.real value) => marked "floating point" (withPoint value)
  | found => found.write

end Found

/-- What is found in the place of a tree. -/
def Tree.found : Tree → Found
  | .scalar value _ => .scalar value
  | .list _ _ => .list
  | .table _ _ => .table

/-- The kind of value that a setting takes. -/
inductive Wanted where
  | flag
  /-- A whole number, where none can be read. -/
  | whole
  /-- A number that fits into an unsigned 64-bit word. -/
  | word64
  /-- A number that fits into an unsigned 32-bit word. -/
  | word32
  | real
  | text
deriving DecidableEq

/-- The wording of a kind of value. -/
def Wanted.write : Wanted → String
  | .flag => "a boolean"
  | .whole => "an integer"
  | .word64 => "an unsigned 64 bit or less integer"
  | .word32 => "an unsigned 32 bit integer"
  | .real => "a floating point"
  | .text => "a string"

/-- Why a value cannot be taken. -/
inductive Mismatch where
  /-- The value of a setting is of a wrong kind. -/
  | value (found : Found) (wanted : Wanted) (path : Tree.Path) (origin : Option Origin)
  /-- No list stands where one is wanted. -/
  | noList (found : Found)
  /-- No group of settings stands where the one of a name is wanted. -/
  | noGroup (found : Found) (name : String)
deriving DecidableEq

namespace Mismatch

/-- The beginning that all wordings share. -/
def introduce (found : List Char) (wanted : String) : List Char :=
  "invalid type: ".toList ++ found ++ ", expected ".toList ++ wanted.toList

/-- The wording of a mismatch. -/
def write : Mismatch → List Char
  | .value found wanted path origin =>
      introduce found.write wanted.write
        ++ (if path.isEmpty then [] else " for key `".toList ++ path.write ++ ['`'])
        ++ (match origin with
          | some origin => " in ".toList ++ origin.write
          | none => [])
  | .noList found => introduce found.writeBroadly "a sequence"
  | .noGroup found name => introduce found.writeBroadly ("struct " ++ name)

/-- A mismatch below a step, seen from above that step. -/
def below (step : Tree.Step) : Mismatch → Mismatch
  | .value found wanted path origin => .value found wanted (step :: path) origin
  | mismatch => mismatch

end Mismatch

end AdmissionControl
