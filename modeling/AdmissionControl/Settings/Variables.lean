import AdmissionControl.Binary64.Decimal
import AdmissionControl.Settings.Tree

/-!
# Variables that hold settings

A variable holds a setting if its name begins with the prefix of settings in any case. The rest of
its name, with points between the levels, is the key that it sets. Its text is read as a flag or a
number if it can be.
-/

namespace AdmissionControl

open Text

namespace Settings

/-- How the names of variables begin that hold settings. -/
def variableStart : List Char := "load_shedder__".toList

/-- Writes a point for each level mark, from left to right. -/
def markLevels : List Char → List Char
  | '_' :: '_' :: rest => '.' :: markLevels rest
  | character :: rest => character :: markLevels rest
  | [] => []

/-- The key that a variable sets, if it holds a setting. -/
def keyOfVariable? (name : List Char) : Option (List Char) :=
  if variableStart.isPrefixOf (lowerCase name) then
    some (markLevels (name.drop variableStart.length))
  else
    none

/-- The value of a variable: a flag in any case, a whole number, another number, or else its
text. -/
def valueOfVariable (text : List Char) : Scalar :=
  let word := lowerCase text
  if word = "true".toList then .flag true
  else if word = "false".toList then .flag false
  else
    match Numeral.readInt64? text with
    | some number => .whole number
    | none =>
        match Binary64.read? text with
        | some number => .real number
        | none => .text text

end Settings

end AdmissionControl
