import AdmissionControl.Json.Fault
import AdmissionControl.Settings.Basic
import AdmissionControl.Settings.Mismatch

/-!
# Libraries for configuration

Files are read, sources are laid over each other and values are converted by a library, and settings
are loaded with whichever library there is. It is set up to take what the variables with the prefix
of settings hold as values of the kinds that their texts show.
-/

namespace AdmissionControl

open Text

namespace Settings

/-- What a source of settings gives: values by key. -/
abbrev Source := List (List Char × Tree)

/-- A configuration file. -/
structure File where
  name : List Char
  text : List Char
deriving DecidableEq

/-- Why settings could not be loaded. -/
inductive LoadFault where
  | missingFile (name : List Char)
  /-- The name of a file does not show a known format. -/
  | unknownFormat (name : List Char)
  /-- The text of a file is no document. -/
  | malformed (fault : Json.Fault) (name : List Char)
  /-- The document of a file is no table. -/
  | noTable (found : Found) (name : List Char)
  /-- A value is of a wrong kind. -/
  | mismatched (mismatch : Mismatch)
  | unacceptable (fault : Fault)
deriving DecidableEq

/-- The wording of a fault. For a document that is no table the name of the file stands twice: as
the origin of the value and as the place of the fault. -/
def LoadFault.message : LoadFault → String
  | .missingFile name => "configuration file \"" ++ String.ofList name ++ "\" not found"
  | .unknownFormat name =>
      "configuration file \"" ++ String.ofList name ++ "\" is not of a registered file format"
  | .malformed fault name => String.ofList (fault.write ++ " in ".toList ++ name)
  | .noTable found name =>
      let place := " in ".toList ++ name
      String.ofList (Mismatch.introduce found.write "a map" ++ place ++ place)
  | .mismatched mismatch => String.ofList mismatch.write
  | .unacceptable fault => fault.message

/-- A library for configuration, as far as settings are loaded with it. -/
structure Library where
  /-- What the text of a file gives. -/
  readFile : File → Except LoadFault Source
  /-- What the variables of an environment give. -/
  readVariables : List (List Char × List Char) → Source
  /-- The tree that sources make, each laid over those before it. -/
  build : List Source → Tree
  toFlag : Tree → Except Mismatch Bool
  toWord32 : Tree → Except Mismatch UInt32
  toWord64 : Tree → Except Mismatch UInt64
  toReal : Tree → Except Mismatch Binary64
  toText : Tree → Except Mismatch (List Char)
  toTexts : Tree → Except Mismatch (List (List Char))

end Settings

end AdmissionControl
