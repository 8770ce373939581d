import AdmissionControl.Settings.Tree
import AdmissionControl.Text.Blank
import AdmissionControl.Text.Numeral

/-!
# Paths as text

A key can be the text of a path: names joined by points, and positions in square brackets after
them. A key that is no such text stands for the entry of just that name.
-/

namespace AdmissionControl.Tree.Path

open Text

/-- Whether a character may stand in a name of a path. -/
def isNameCharacter (character : Char) : Bool :=
  character.isAlphanum || character = '_' || character = '-' || character = ' '

/-- Whether a character may stand around a position. -/
def isMargin (character : Char) : Bool := character = ' ' || character = '\t'

/-- A position: digits after an optional minus sign. It fits into a signed 64-bit word. -/
def readPosition? (text : List Char) : Option Int :=
  match text.head? with
  | some '+' => none
  | _ => Numeral.readInt64? text

/-- The steps of a path, each introduced by its mark. There are no more of them than characters. -/
def readSteps? : Nat → List Char → Option Path
  | _, [] => some []
  | 0, _ :: _ => none
  | fuel + 1, mark :: rest =>
      if mark = '.' then
        match rest.takeWhile isNameCharacter with
        | [] => none
        | name =>
            (readSteps? fuel (rest.dropWhile isNameCharacter)).map fun steps => .key name :: steps
      else if mark = '[' then do
        let (inside, after) ← cut? ']' rest
        let position ← readPosition? (dropEndWhile isMargin (inside.dropWhile isMargin))
        let steps ← readSteps? fuel after
        pure (.item position :: steps)
      else
        none

/-- The path that a key stands for. -/
def ofKey (key : List Char) : Path :=
  (readSteps? (key.length + 1) ('.' :: key)).getD [.key key]

/-- The text of a step with its mark. -/
def writeStep : Step → List Char
  | .key name => '.' :: name
  | .item position => '[' :: Numeral.writeInt position ++ [']']

/-- The text of a path. A key at its beginning has no mark. -/
def write : Path → List Char
  | .key name :: rest => name ++ rest.flatMap writeStep
  | path => path.flatMap writeStep

end AdmissionControl.Tree.Path
