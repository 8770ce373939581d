import AdmissionControl.Files.Basic
import AdmissionControl.Settings.Standard

/-!
# The surroundings of a run

A run of the program finds files and variables of the environment. The name of a configuration file
is a path to it, which can leave out the extension; complaints about what the file holds call it by
the steps of that path.
-/

namespace AdmissionControl

/-- What a run finds around it. -/
structure Surroundings where
  files : Files := {}
  /-- Names and values of variables of the environment. -/
  environment : List (List Char × List Char) := []

namespace Surroundings

/-- What the name of a configuration file ends in. -/
def extension : List Char := ".json".toList

/-- Whether a path ends in a name with the extension. -/
def isExtended (path : List Char) : Bool :=
  match (Files.movesOf path).getLast? with
  | some name => extension.isSuffixOf name && name != extension
  | none => false

/-- The path with the extension at its last name, if it ends in one. -/
def extend? (path : List Char) : Option (List Char) :=
  let moves := Files.movesOf path
  match moves.getLast? with
  | none => none
  | some last =>
      if last = Files.upStep then none
      else
        let extended := List.intercalate ['/'] (moves.dropLast ++ [last ++ extension])
        some (if path.head? = some '/' then '/' :: extended else extended)

/-- The steps of a path that lead on, as a path. -/
def plain (path : List Char) : List Char :=
  let steps := List.intercalate ['/'] (Files.movesOf path)
  if path.head? = some '/' then '/' :: steps else steps

/-- The configuration file that a path means. -/
def configuration (surroundings : Surroundings) (path : List Char) :
    Except Settings.LoadFault Settings.File :=
  match surroundings.files.textOf? path with
  | some text =>
      if isExtended path then .ok ⟨plain path, text⟩ else .error (.unknownFormat path)
  | none =>
      let found? := do
        let extended ← extend? path
        let text ← surroundings.files.textOf? extended
        pure ⟨extended, text⟩
      match found? with
      | some file => .ok file
      | none => .error (.missingFile path)

/-- The settings that a configuration file and the variables give. -/
def settings (surroundings : Surroundings) (path : Option (List Char)) :
    Except Settings.LoadFault Settings := do
  let file ←
    match path with
    | none => pure none
    | some path => some <$> surroundings.configuration path
  Settings.load {} file surroundings.environment

end Surroundings

end AdmissionControl
