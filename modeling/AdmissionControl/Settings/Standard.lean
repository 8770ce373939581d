import AdmissionControl.Json.Reader
import AdmissionControl.Settings.Convert
import AdmissionControl.Settings.Load
import AdmissionControl.Settings.Path
import AdmissionControl.Settings.Variables

/-!
# The standard library for configuration

Files are JSON documents. The keys of a source are paths into the tree that is built, and entries
are laid over it one by one.
-/

namespace AdmissionControl

open Text

namespace Settings

/-- Lays a value over the place that a key in any case stands for. -/
def layOver (tree : Tree) (key : List Char) (value : Tree) : Tree :=
  Tree.changeAt (fun old => Tree.overlay old value) (Tree.Path.ofKey (lowerCase key)) (some tree)

/-- Lays entries over a tree, one after another. -/
def layEntries (tree : Tree) (entries : List (List Char × Tree)) : Tree :=
  entries.foldl (fun sum entry => layOver sum entry.1 entry.2) tree

/-- The entries that variables of the environment set. -/
def entriesOfVariables (environment : List (List Char × List Char)) : List (List Char × Tree) :=
  environment.filterMap fun (name, text) =>
    (keyOfVariable? name).map fun key =>
      (key, .scalar (valueOfVariable text) (some .environment))

/-- The entries of a configuration file, which holds a table. -/
def File.entries (file : File) : Except LoadFault (List (List Char × Tree)) :=
  match Json.read (some (.file file.name)) file.text with
  | .ok (.table entries _) => .ok entries
  | .ok tree => .error (.noTable tree.found file.name)
  | .error fault => .error (.malformed fault file.name)

/-- The library that programs load settings with. -/
def Library.standard : Library where
  readFile := File.entries
  readVariables := entriesOfVariables
  build sources := layEntries (.table [] none) sources.flatten
  toFlag := Tree.toFlag
  toWord32 := Tree.toWord32
  toWord64 := Tree.toWord64
  toReal := Tree.toReal
  toText := Tree.toText
  toTexts := Tree.toTexts

/-- Loads settings as programs do. -/
def load (usual : Settings) (file : Option File) (environment : List (List Char × List Char)) :
    Except LoadFault Settings :=
  Library.standard.load usual file environment

end Settings

end AdmissionControl
