import AdmissionControl.Files.Obstacle
import AdmissionControl.Text.Bytes

/-!
# Files

The files that a run finds and leaves behind: a location is the list of names that leads to it from
the root, and each location holds at most one entry. A path is followed step by step from the root
or from the working directory, and every step but the last has to lead to a directory.
-/

namespace AdmissionControl

/-- The names that lead to a place from the root. -/
abbrev Location := List (List Char)

/-- What lies at a location. -/
inductive Files.Entry where
  | directory
  | file (text : List Char)
  | socket
  /-- Something that can be opened but holds no text. -/
  | device
deriving DecidableEq

/-- What every system holds, as far as a run is likely to come across it. -/
def Files.usual : List (Location × Files.Entry) :=
  let directories :=
    ["bin", "dev", "etc", "home", "proc", "root", "run", "sys", "tmp", "usr", "var"]
  directories.map (fun name => ([name.toList], .directory))
    ++ [(["dev".toList, "null".toList], .device), (["etc".toList, "hosts".toList], .file []),
      (["etc".toList, "passwd".toList], .file [])]

/-- The files of a system. -/
structure Files where
  /-- The directory that paths without a slash at their beginning start from. -/
  workingDirectory : Location := ["tmp".toList, "run".toList]
  entries : List (Location × Files.Entry) := Files.usual
deriving DecidableEq

namespace Files

/-- What lies at a location. The way to the working directory is there in any case. -/
def entryAt? (files : Files) (location : Location) : Option Entry :=
  if location.isPrefixOf files.workingDirectory then some .directory
  else files.entries.lookup location

/-- Puts an entry at a location in place of what was there. -/
def put (files : Files) (location : Location) (entry : Entry) : Files :=
  { files with entries := (location, entry) :: files.entries.filter (·.1 ≠ location) }

/-- Takes away what lies at a location. -/
def remove (files : Files) (location : Location) : Files :=
  { files with entries := files.entries.filter (·.1 ≠ location) }

/-- The step that stays where it is. -/
def hereStep : List Char := ['.']

/-- The step that leads one level up. -/
def upStep : List Char := ['.', '.']

/-- The greatest number of bytes in a name. -/
def greatestName : Nat := 255

/-- The greatest number of bytes in a path. -/
def greatestPath : Nat := 4095

/-- The steps of a path. A slash at its end asks for a directory there, as a step that stays
does. -/
def stepsOf (path : List Char) : List (List Char) :=
  let names := (path.splitOn '/').filter fun name => !name.isEmpty
  if path.getLast? = some '/' then names ++ [hereStep] else names

/-- The steps of a path that lead on to another place. -/
def movesOf (path : List Char) : List (List Char) := (stepsOf path).filter (· ≠ hereStep)

/-- The location that a path starts from. -/
def startOf (files : Files) (path : List Char) : Location :=
  if path.head? = some '/' then [] else files.workingDirectory

/-- The location that a name stands for in a directory, unless it is too long for one. -/
def place (directory : Location) (name : List Char) : Except Obstacle Location :=
  if greatestName < (Text.encode name).length then .error .nameTooLong
  else .ok (directory ++ [name])

/-- Follows one step from a directory to another. -/
def enter (files : Files) (directory : Location) (step : List Char) : Except Obstacle Location := do
  if step = hereStep then return directory
  if step = upStep then return directory.dropLast
  let location ← place directory step
  match files.entryAt? location with
  | some .directory => return location
  | some _ => throw .notDirectory
  | none => throw .noSuchFile

/-- The directory that steps lead to. -/
def directoryAt (files : Files) (start : Location) (steps : List (List Char)) :
    Except Obstacle Location :=
  steps.foldlM files.enter start

/-- Where a path ends: at a directory that its last step stays at or goes up to, or at a name in a
directory, where there may be nothing yet. -/
inductive Target where
  | directory (location : Location)
  | named (location : Location)
deriving DecidableEq

/-- Where a path ends. -/
def target (files : Files) (start : Location) (steps : List (List Char)) :
    Except Obstacle Target := do
  let directory ← files.directoryAt start steps.dropLast
  match steps.getLast? with
  | none => return .directory directory
  | some last =>
      if last = hereStep ∨ last = upStep then
        return .directory (← files.enter directory last)
      else
        return .named (← place directory last)

/-- Where a path ends, unless it cannot be one. A path without a character leads nowhere. -/
def targetOf (files : Files) (path : List Char) : Except Obstacle Target :=
  if path.isEmpty then .error .noSuchFile
  else if path.contains '\x00' then .error .nullInPath
  else if greatestPath < (Text.encode path).length then .error .nameTooLong
  else files.target (files.startOf path) (stepsOf path)

/-- What a path leads to, and where. -/
def find (files : Files) (path : List Char) : Except Obstacle (Location × Entry) := do
  match ← files.targetOf path with
  | .directory location => return (location, .directory)
  | .named location =>
      match files.entryAt? location with
      | some entry => return (location, entry)
      | none => throw .noSuchFile

/-- The text of the file that a path leads to. -/
def textOf? (files : Files) (path : List Char) : Option (List Char) :=
  match files.find path with
  | .ok (_, .file text) => some text
  | _ => none

/-- Puts a file at the end of a path, with the directories on the way. -/
def putFile (files : Files) (path text : List Char) : Files :=
  let start := files.startOf path
  let names := movesOf path
  let furnished :=
    (List.range names.length).foldl
      (fun files count => files.put (start ++ names.take count) .directory) files
  furnished.put (start ++ names) (.file text)

/-- What is done to files; it can fail after some of it is done. -/
abbrev Action := ExceptT Obstacle (StateM Files)

/-- The outcome of an action, and the files after it. -/
def perform {α : Type} (files : Files) (action : Action α) : Except Obstacle α × Files :=
  action.run.run files

/-- Makes a directory at the end of names. -/
def makeDirectory (start : Location) (names : List (List Char)) : Action Unit := do
  let files ← get
  match files.target start names with
  | .error obstacle => throw obstacle
  | .ok (.directory _) => throw .fileExists
  | .ok (.named location) =>
      if (files.entryAt? location).isSome then throw .fileExists
      else set (files.put location .directory)

/-- Makes a directory, or leaves one that is there. -/
def ensureDirectory (start : Location) (names : List (List Char)) : Action Unit := do
  tryCatch (makeDirectory start names) fun obstacle => do
    match (← get).directoryAt start names with
    | .ok _ => pure ()
    | .error _ => throw obstacle

/-- Makes a directory with those on the way to it. The names come last first. -/
def ensureDirectories (start : Location) : List (List Char) → Action Unit
  | [] => pure ()
  | last :: outer =>
      tryCatch (ensureDirectory start (last :: outer).reverse) fun obstacle =>
        if obstacle = .noSuchFile then do
          ensureDirectories start outer
          ensureDirectory start (last :: outer).reverse
        else
          throw obstacle

/-- Makes the directory that a path lies in. -/
def ensureParent (path : List Char) : Action Unit := do
  let outer := (movesOf path).dropLast
  let size := (Text.encode (List.intercalate ['/'] outer)).length
  if outer.any (·.contains '\x00') then throw .nullInPath
  if greatestPath < size then throw .nameTooLong
  ensureDirectories ((← get).startOf path) outer.reverse

/-- Removes what a path leads to, which is no directory. -/
def unlink (path : List Char) : Action Unit := do
  let files ← get
  match files.targetOf path with
  | .error obstacle => throw obstacle
  | .ok (.directory _) => throw .isDirectory
  | .ok (.named location) =>
      match files.entryAt? location with
      | none => throw .noSuchFile
      | some .directory => throw .isDirectory
      | some _ => set (files.remove location)

end Files

end AdmissionControl
