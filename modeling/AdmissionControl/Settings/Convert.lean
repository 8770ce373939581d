import AdmissionControl.Binary64.Arithmetic
import AdmissionControl.Settings.Mismatch

/-!
# Conversions

A setting takes every scalar that can be read as a value of its kind: numbers are rounded or
widened, texts are read, flags count as zero and one. What is no scalar is refused.
-/

namespace AdmissionControl

open Text

namespace Tree

/-- Refuses a tree. -/
def refuse {α : Type} (tree : Tree) (wanted : Wanted) : Except Mismatch α :=
  .error (.value tree.found wanted [] tree.origin)

/-- The flag that a word in any case stands for. -/
def flagWord? (text : List Char) : Option Bool :=
  let word := lowerCase text
  if word = "true".toList ∨ word = "on".toList ∨ word = "yes".toList then some true
  else if word = "false".toList ∨ word = "off".toList ∨ word = "no".toList then some false
  else none

/-- Reads a flag. Numbers other than zero are true. A word that is no flag is refused in lower
case. -/
def toFlag : Tree → Except Mismatch Bool
  | .scalar (.flag value) _ => .ok value
  | .scalar (.whole value) _ => .ok (value != 0)
  | .scalar (.real value) _ => .ok (value.rank != some 0)
  | .scalar (.text value) origin =>
      if value = ['1'] then .ok true
      else if value = ['0'] then .ok false
      else
        match flagWord? value with
        | some truth => .ok truth
        | none => (Tree.scalar (.text (lowerCase value)) origin).refuse .flag
  | tree => tree.refuse .flag

/-- Reads an unsigned 64-bit word. A fraction is rounded and brought into the range first. -/
def toWord64 (tree : Tree) : Except Mismatch UInt64 :=
  match tree with
  | .scalar (.flag value) _ => .ok (.ofNat value.toNat)
  | .scalar (.whole value) _ =>
      if 0 ≤ value then .ok (.ofNat value.toNat) else tree.refuse .word64
  | .scalar (.real value) _ => .ok (.ofNat (value.roundWithin (UInt64.size - 1)))
  | .scalar (.text value) _ =>
      match flagWord? value, Numeral.readBelow? UInt64.size value with
      | some truth, _ => .ok (.ofNat truth.toNat)
      | none, some number => .ok (.ofNat number)
      | none, none => tree.refuse .whole
  | _ => tree.refuse .whole

/-- Reads an unsigned 32-bit word, which has to be a 64-bit word first. -/
def toWord32 (tree : Tree) : Except Mismatch UInt32 := do
  let word ← tree.toWord64
  if word.toNat < UInt32.size then pure (.ofNat word.toNat)
  else .error (.value (.word word.toNat) .word32 [] none)

/-- The binary64 value nearest to a whole number. -/
def nearest (number : Int) : Binary64 :=
  .ofRatio (decide (number < 0)) (number.natAbs * Binary64.unitsPerOne) 1

/-- Reads a binary64 value. -/
def toReal (tree : Tree) : Except Mismatch Binary64 :=
  match tree with
  | .scalar (.flag value) _ => .ok (.ofNat value.toNat)
  | .scalar (.whole value) _ => .ok (nearest value)
  | .scalar (.real value) _ => .ok value
  | .scalar (.text value) _ =>
      match flagWord? value, Binary64.read? value with
      | some truth, _ => .ok (.ofNat truth.toNat)
      | none, some number => .ok number
      | none, none => tree.refuse .real
  | _ => tree.refuse .real

/-- Reads a text. Other scalars are written out. -/
def toText (tree : Tree) : Except Mismatch (List Char) :=
  match tree with
  | .scalar (.flag value) _ => .ok (if value then "true".toList else "false".toList)
  | .scalar (.whole value) _ => .ok (Numeral.writeInt value)
  | .scalar (.real value) _ => .ok value.write
  | .scalar (.text value) _ => .ok value
  | _ => tree.refuse .text

/-- Reads texts, the first of which stands at a position of their list. -/
def toTextsFrom : Nat → List Tree → Except Mismatch (List (List Char))
  | _, [] => .ok []
  | position, item :: rest => do
      let text ← item.toText.mapError (Mismatch.below (.item position))
      pure (text :: (← toTextsFrom (position + 1) rest))

/-- Reads a list of texts. -/
def toTexts : Tree → Except Mismatch (List (List Char))
  | .list items _ => toTextsFrom 0 items
  | tree => .error (.noList tree.found)

end Tree

end AdmissionControl
