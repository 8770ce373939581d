import AdmissionControl.Binary64.Basic
import AdmissionControl.Text.LowerCase

/-!
# Configuration trees

A configuration source is a tree of scalars, lists and tables, and every value knows where it was
written down. Sources are laid over each other: tables merge key by key at every depth, and all else
is replaced by what comes later. Keys count in lower case. A path leads to one place in a tree,
which is made when it does not exist; what is made on the way comes from nowhere.
-/

namespace AdmissionControl

/-- A value without parts. -/
inductive Scalar where
  | nothing
  | flag (value : Bool)
  | whole (value : Int)
  | real (value : Binary64)
  | text (value : List Char)
deriving DecidableEq

/-- Where a value was written down. -/
inductive Origin where
  | file (name : List Char)
  | environment
deriving DecidableEq

/-- The wording of an origin. -/
def Origin.write : Origin → List Char
  | .file name => name
  | .environment => "the environment".toList

/-- A value in a configuration source. -/
inductive Tree where
  | scalar (value : Scalar) (origin : Option Origin)
  | list (items : List Tree) (origin : Option Origin)
  | table (entries : List (List Char × Tree)) (origin : Option Origin)

namespace Tree

/-- A place that holds nothing. -/
def vacant : Tree := .scalar .nothing none

instance : Inhabited Tree := ⟨vacant⟩

/-- Where a value was written down, if it was. -/
def origin : Tree → Option Origin
  | .scalar _ origin | .list _ origin | .table _ origin => origin

/-- One step of a path: to the entry of a table, or to an item of a list, which is counted from the
end if the number is negative. -/
inductive Step where
  | key (name : List Char)
  | item (position : Int)
deriving DecidableEq

/-- A way through a tree. -/
abbrev Path := List Step

/-- The entries of a table and where it was written down. All else gives way to a new table. -/
def asTable : Option Tree → List (List Char × Tree) × Option Origin
  | some (.table entries origin) => (entries, origin)
  | _ => ([], none)

/-- The items of a list and where it was written down. All else gives way to a new list. -/
def asList : Option Tree → List Tree × Option Origin
  | some (.list items origin) => (items, origin)
  | _ => ([], none)

/-- Changes the entry of a key, which is added if it is missing. -/
def changeEntry (change : Option Tree → Tree) (name : List Char) :
    List (List Char × Tree) → List (List Char × Tree)
  | [] => [(name, change none)]
  | (key, value) :: rest =>
      if key = name then (key, change (some value)) :: rest
      else (key, value) :: changeEntry change name rest

/-- Changes the item at a position. The list is filled up with nothing until it has one there: at
its end, or at its front if the position is counted from the end. -/
def changeItem (change : Option Tree → Tree) (position : Int) (items : List Tree) : List Tree :=
  let missing := (-position).toNat - items.length
  let place := if position < 0 then items.length - (-position).toNat else position.toNat
  let filled :=
    if position < 0 then List.replicate missing vacant ++ items
    else items ++ List.replicate (place + 1 - items.length) vacant
  filled.modify place fun item => change (some item)

/-- Changes the place that a path leads to. What stands in the way of the path is replaced. -/
def changeAt (change : Option Tree → Tree) : Path → Option Tree → Tree
  | [], tree => change tree
  | .key name :: rest, tree =>
      let (entries, origin) := asTable tree
      .table (changeEntry (changeAt change rest) name entries) origin
  | .item position :: rest, tree =>
      let (items, origin) := asList tree
      .list (changeItem (changeAt change rest) position items) origin

mutual

/-- Lays a tree over what stands at a place. A table without entries changes nothing. -/
def overlay (base : Option Tree) : Tree → Tree
  | .table entries _ =>
      if entries.isEmpty then base.getD (.table [] none)
      else
        let (former, origin) := asTable base
        .table (overlayEntries former entries) origin
  | tree => tree
termination_by tree => sizeOf tree

/-- Lays entries over the entries of a table, one after another. -/
def overlayEntries (base : List (List Char × Tree)) :
    List (List Char × Tree) → List (List Char × Tree)
  | [] => base
  | (name, value) :: rest =>
      overlayEntries (changeEntry (fun old => overlay old value) (Text.lowerCase name) base) rest
termination_by entries => sizeOf entries

end

end Tree

end AdmissionControl
