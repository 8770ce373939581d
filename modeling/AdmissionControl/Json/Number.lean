import AdmissionControl.Binary64.Arithmetic
import AdmissionControl.Binary64.Decimal
import AdmissionControl.Settings.Tree

/-!
# Numbers of JSON texts

A number without a point and an exponent is whole if it fits into a signed 64-bit word. Every other
number is a binary64 value, which is made in two steps: its leading digits as far as they fit into
an unsigned 64-bit word are rounded to a value, and that is multiplied or divided by a rounded power
of ten. A number too large for binary64 is an error.
-/

namespace AdmissionControl.Json

open Text

/-- What has been read last of a number. -/
inductive Numeral.Stage where
  | sign
  /-- A zero at the front, which no other digit can follow. -/
  | zero
  | whole
  | point
  | fraction
  | exponentMark
  | exponentSign
  | exponent
deriving DecidableEq

/-- A number as far as it has been read. -/
structure Numeral where
  stage : Numeral.Stage
  negative : Bool := false
  whole : List Char := []
  fraction : List Char := []
  shrinking : Bool := false
  exponentDigits : List Char := []

namespace Numeral

/-- The number that a digit at its front begins. -/
def ofDigit? (negative : Bool) (character : Char) : Option Numeral :=
  if character = '0' then some { stage := .zero, negative, whole := ['0'] }
  else if character.isDigit then some { stage := .whole, negative, whole := [character] }
  else none

/-- The number that a character begins. -/
def start? (character : Char) : Option Numeral :=
  if character = '-' then some { stage := .sign, negative := true } else ofDigit? false character

/-- A number with a point or the mark of an exponent after it. -/
def extendByMark? (numeral : Numeral) (character : Char) : Option Numeral :=
  if character = '.' && numeral.stage != .fraction then some { numeral with stage := .point }
  else if character = 'e' || character = 'E' then some { numeral with stage := .exponentMark }
  else none

/-- A number with one more digit of its exponent. -/
def extendExponent? (numeral : Numeral) (character : Char) : Option Numeral :=
  if character.isDigit then
    some {
      numeral with
      stage := .exponent, exponentDigits := numeral.exponentDigits ++ [character] }
  else
    none

/-- A number with one more digit of its fraction. -/
def extendFraction? (numeral : Numeral) (character : Char) : Option Numeral :=
  if character.isDigit then
    some { numeral with stage := .fraction, fraction := numeral.fraction ++ [character] }
  else
    none

/-- A number with one more character, if that belongs to it. -/
def extend? (numeral : Numeral) (character : Char) : Option Numeral :=
  match numeral.stage with
  | .sign => ofDigit? numeral.negative character
  | .zero => numeral.extendByMark? character
  | .whole =>
      if character.isDigit then some { numeral with whole := numeral.whole ++ [character] }
      else numeral.extendByMark? character
  | .point => numeral.extendFraction? character
  | .fraction => numeral.extendFraction? character <|> numeral.extendByMark? character
  | .exponentMark =>
      if character = '+' then some { numeral with stage := .exponentSign }
      else if character = '-' then
        some { numeral with stage := .exponentSign, shrinking := true }
      else numeral.extendExponent? character
  | .exponentSign | .exponent => numeral.extendExponent? character

/-- Whether a number can end where it has been read to. -/
def isComplete (numeral : Numeral) : Bool :=
  match numeral.stage with
  | .zero | .whole | .fraction | .exponent => true
  | .sign | .point | .exponentMark | .exponentSign => false

/-- Whether a number can end before a character that does not belong to it. -/
def canEndBefore (numeral : Numeral) (character : Char) : Bool :=
  numeral.isComplete && !(numeral.stage == .zero && character.isDigit)

/-- The size of the exponent. -/
def exponentSize (numeral : Numeral) : Nat := Nat.ofDigitChars 10 numeral.exponentDigits 0

/-- The power of ten that is written out. -/
def exponent (numeral : Numeral) : Int :=
  if numeral.shrinking then -(numeral.exponentSize : Int) else numeral.exponentSize

/-- Appends digits to a number while it stays below `2 ^ 64`, and gives the digits that are left. -/
def appendDigits (number : Nat) : List Char → Nat × List Char
  | [] => (number, [])
  | digit :: rest =>
      let next := number * 10 + (digit.toNat - 48)
      if next < UInt64.size then appendDigits next rest else (number, digit :: rest)

/-- The leading digits of a number, and the power of ten that they are multiplied by. -/
def scaled (numeral : Numeral) : Nat × Int :=
  let (leading, dropped) := appendDigits 0 numeral.whole
  let (significand, unread) := appendDigits leading numeral.fraction
  (significand, numeral.exponent + dropped.length - (numeral.fraction.length - unread.length))

/-- Whether the exponent alone takes a number out of range, whatever digits it goes on with. -/
def isHopeless (numeral : Numeral) : Bool :=
  !numeral.shrinking && 2 ^ 31 ≤ numeral.exponentSize && numeral.scaled.1 != 0

/-- The greatest power of ten that is scaled by in one step. -/
def greatestPower : Nat := 308

/-- The power of ten, rounded. -/
def powerOfTen (exponent : Nat) : Binary64 := .ofNat (10 ^ exponent)

/-- Divides by a power of ten, in steps of the greatest one. Three steps take every value to
zero. -/
def shrink : Nat → Binary64 → Nat → Binary64
  | 0, _, _ => .zero
  | steps + 1, value, power =>
      if power ≤ greatestPower then value / powerOfTen power
      else shrink steps (value / powerOfTen greatestPower) (power - greatestPower)

/-- Multiplies a value by a power of ten, unless the product is too large. -/
def scale? (value : Binary64) (exponent : Int) : Option Binary64 :=
  if value = .zero then some .zero
  else if 0 ≤ exponent then
    if greatestPower < exponent.toNat then none
    else
      let product := value * powerOfTen exponent.toNat
      if product.isFinite then some product else none
  else
    some (shrink 3 value (-exponent).toNat)

/-- The value with its sign turned if it is negative. -/
def withSign (negative : Bool) : Binary64 → Binary64
  | .finite _ magnitude => .finite negative magnitude
  | value => value

/-- The binary64 value of a number. -/
def toReal? (numeral : Numeral) : Option Binary64 :=
  (scale? (.ofNat numeral.scaled.1) numeral.scaled.2).map (withSign numeral.negative)

/-- The whole number, if it fits into a signed word. Zero with a sign is no whole number. -/
def toWhole? (numeral : Numeral) : Option Int :=
  let number := Nat.ofDigitChars 10 numeral.whole 0
  if numeral.stage != .zero && numeral.stage != .whole then none
  else if numeral.negative then
    if number = 0 ∨ 2 ^ 63 < number then none else some (-(number : Int))
  else if number < 2 ^ 63 then some number
  else none

/-- The value of a number, unless it is out of range. -/
def value? (numeral : Numeral) : Option Scalar :=
  match numeral.toWhole? with
  | some number => some (.whole number)
  | none => numeral.toReal?.map .real

end Numeral

end AdmissionControl.Json
