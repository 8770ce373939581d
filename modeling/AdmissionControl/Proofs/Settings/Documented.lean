import AdmissionControl.Proofs.Settings.Reading
import AdmissionControl.Settings.Variables

/-!
# What a library is known to do

A library finds the values of a file under their keys, takes each variable of the environment for a
value at the names that its key spells, merges both key by key, and converts values of the kind that
is wanted as they are. How it does so is left to it, and so is which one counts of several variables
that spell the same names.
-/

namespace AdmissionControl

open Text

namespace Tree

/-- What a later tree makes of an earlier one, key by key. -/
inductive Merges : Option Tree → Option Tree → Option Tree → Prop
  /-- The earlier one counts where the later one gives nothing. -/
  | keeps (earlier : Option Tree) : Merges earlier none earlier
  /-- What is no table takes the place of what was there. -/
  | replaces (earlier : Option Tree) {later : Tree} (leaf : later.isTable = false) :
      Merges earlier (some later) (some later)
  /-- A table is merged into what was there. -/
  | descends {earlier : Option Tree} {later merged : List (List Char × Tree)}
      (origin originMerged : Option Origin)
      (entries : ∀ name, Merges (child? earlier name) (later.lookup name) (merged.lookup name)) :
      Merges earlier (some (.table later origin)) (some (.table merged originMerged))

/-- What is found has the values of what is written, whose keys may have any case. -/
inductive Reads : Option Tree → Option Tree → Prop
  | nothing : Reads none none
  | leaf {tree : Tree} (leaf : tree.isTable = false) : Reads (some tree) (some tree)
  | table {written found : List (List Char × Tree)} (origin originFound : Option Origin)
      (entries : ∀ name, Reads (named? written name) (found.lookup name)) :
      Reads (some (.table written origin)) (some (.table found originFound))

end Tree

namespace Settings

/-- The names that the key of a variable spells. Case does not count. -/
def namesOf? (name : List Char) : Option (List (List Char)) :=
  (keyOfVariable? name).map fun key => (lowerCase key).splitOn '.'

end Settings

namespace Setting

open Settings

/-- The names that lead to a setting. -/
def names (setting : Setting) : List (List Char) :=
  match setting.place.group? with
  | none => [setting.place.name.toList]
  | some group => [group.toList, setting.place.name.toList]

/-- Whether a variable sets a setting. -/
def isNamedBy (setting : Setting) (name : List Char) : Bool :=
  namesOf? name = some setting.names

end Setting

namespace Settings

/-- The words of the flags. -/
def flagWord (flag : Bool) : List Char := if flag then "true".toList else "false".toList

/-- What a scalar is written as. -/
def printedScalar : Scalar → List Char
  | .nothing => []
  | .flag value => flagWord value
  | .whole value => Numeral.writeInt value
  | .real value => value.write
  | .text value => value

namespace Library

/-- The tree of the environment alone. -/
def environmentTree (library : Library) (environment : List (List Char × List Char)) : Tree :=
  library.build [library.readVariables environment]

/-- What is known of how a library builds a tree from the sources before the environment, of which
there is one at most, and from the environment. -/
structure Merges (library : Library) (sources : List Source)
    (environment : List (List Char × List Char)) : Prop where
  /-- The values of a file are found under their keys. -/
  reads : Tree.Reads (some (.table sources.flatten none)) (some (library.build sources))
  /-- The environment is merged into it key by key. -/
  merges : Tree.Merges (some (library.build sources)) (some (library.environmentTree environment))
    (some (library.build (sources ++ [library.readVariables environment])))
  /-- What is no table in the environment is the value of a variable there. -/
  value : ∀ names tree, Tree.at? (some (library.environmentTree environment)) names = some tree →
    tree.isTable = false →
      ∃ entry ∈ environment, namesOf? entry.1 = some names
        ∧ tree = .scalar (valueOfVariable entry.2) (some .environment)
  /-- A table in it is on the way to a variable. -/
  way : ∀ names tree, Tree.at? (some (library.environmentTree environment)) names = some tree →
    tree.isTable = true → names ≠ [] →
      ∃ entry ∈ environment, ∃ below ≠ [], namesOf? entry.1 = some (names ++ below)
  /-- A variable counts, if not another one has its value on the way. -/
  counts : ∀ entry ∈ environment, ∀ names, namesOf? entry.1 = some names →
    (Tree.at? (some (library.environmentTree environment)) names).isSome = true
      ∨ ∃ before below tree, names = before ++ below ∧ below ≠ []
        ∧ Tree.at? (some (library.environmentTree environment)) before = some tree
        ∧ tree.isTable = false

/-- A conversion takes no table for a value. -/
def RefusesTables {α : Type} (convert : Tree → Except Mismatch α) : Prop :=
  ∀ tree value, convert tree = .ok value → tree.isTable = false

/-- What is known of how a library converts values. -/
structure Converts (library : Library) : Prop where
  /-- A value of the kind that is wanted is taken as it is. -/
  flag : ∀ value origin, library.toFlag (.scalar (.flag value) origin) = .ok value
  word32 : ∀ value origin, library.toWord32 (.scalar (.whole value.toNat) origin) = .ok value
  word64 : ∀ value origin, library.toWord64 (.scalar (.whole value.toNat) origin) = .ok value
  real : ∀ value origin, library.toReal (.scalar (.real value) origin) = .ok value
  texts : ∀ texts origin, library.toTexts
    (.list (texts.map fun text => .scalar (.text text) origin) origin) = .ok texts
  /-- A scalar is written out where a text is wanted. -/
  text : ∀ value origin, value ≠ .nothing →
    library.toText (.scalar value origin) = .ok (printedScalar value)
  flagNoTable : RefusesTables library.toFlag
  word32NoTable : RefusesTables library.toWord32
  word64NoTable : RefusesTables library.toWord64
  realNoTable : RefusesTables library.toReal
  textNoTable : RefusesTables library.toText
  textsNoTable : RefusesTables library.toTexts

end Library

end Settings

end AdmissionControl
