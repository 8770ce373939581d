import AdmissionControl.Binary64.Basic
import AdmissionControl.Text.Numeral

/-!
# Decimal texts of binary64 values

Reading is correctly rounded at any length. Writing uses the fewest digits that read back to the
value, takes the nearest of those, and never writes an exponent.
-/

namespace AdmissionControl.Binary64

open Text

/-- The value nearest to `significand * 10 ^ exponent`. Scales past the ends of the binary64 range
are settled without forming the power of ten. -/
def ofDecimal (negative : Bool) (significand : Nat) (exponent : Int) : Binary64 :=
  let scale : Int := exponent + (Numeral.write significand).length
  if significand = 0 ∨ scale < -330 then
    .finite negative .zero
  else if 320 < scale then
    .infinite negative
  else if 0 ≤ exponent then
    ofRatio negative (significand * 10 ^ exponent.toNat * unitsPerOne) 1
  else
    ofRatio negative (significand * unitsPerOne) (10 ^ (-exponent).toNat)

/-- The power of ten that follows a significand: nothing, or `e` with an optional sign and at least
one digit. -/
def readExponent? : List Char → Option Int
  | [] => some 0
  | mark :: rest =>
      if mark = 'e' ∨ mark = 'E' then
        match rest with
        | '-' :: digits => (Numeral.readDigits? digits).map fun number => -(number : Int)
        | '+' :: digits => (Numeral.readDigits? digits).map Int.ofNat
        | digits => (Numeral.readDigits? digits).map Int.ofNat
      else
        none

/-- The fraction digits after a decimal point, and what follows them. -/
def splitFraction : List Char → List Char × List Char
  | '.' :: rest => (rest.takeWhile Char.isDigit, rest.dropWhile Char.isDigit)
  | rest => ([], rest)

/-- A numeral without its sign. A digit is wanted on at least one side of the point. -/
def readUnsigned? (negative : Bool) (text : List Char) : Option Binary64 :=
  let word := text.map Char.toLower
  if word = "inf".toList ∨ word = "infinity".toList then
    some (.infinite negative)
  else if word = "nan".toList then
    some .nan
  else
    let whole := text.takeWhile Char.isDigit
    let (fraction, rest) := splitFraction (text.dropWhile Char.isDigit)
    if whole.isEmpty && fraction.isEmpty then
      none
    else
      (readExponent? rest).map fun exponent =>
        ofDecimal negative (Nat.ofDigitChars 10 (whole ++ fraction) 0)
          (exponent - fraction.length)

/-- The value that a whole text denotes: one optional sign, then `inf`, `infinity` or `nan` in any
case, or digits with an optional point and an optional exponent. -/
def read? : List Char → Option Binary64
  | '-' :: text => readUnsigned? true text
  | '+' :: text => readUnsigned? false text
  | text => readUnsigned? false text

/-- `significand * 10 ^ exponent` in full, without zeros at the end of its fraction. -/
def writePositional (significand : Nat) (exponent : Int) : List Char :=
  if 0 ≤ exponent then
    Numeral.write (significand * 10 ^ exponent.toNat)
  else
    let places := (-exponent).toNat
    let digits := Numeral.write (significand % 10 ^ places)
    let padded := List.replicate (places - digits.length) '0' ++ digits
    let fraction := (padded.reverse.dropWhile (· = '0')).reverse
    let whole := Numeral.write (significand / 10 ^ places)
    if fraction.isEmpty then whole else whole ++ '.' :: fraction

/-- The place of the leading digit of a nonzero magnitude: the least power of ten above it. -/
def Magnitude.decimalScale (magnitude : Magnitude) : Int :=
  if unitsPerOne ≤ magnitude.units then
    (Numeral.write (magnitude.units / unitsPerOne)).length
  else
    let inverse := (unitsPerOne - 1) / magnitude.units
    if inverse = 0 then 1 else 1 - ((Numeral.write inverse).length : Int)

/-- The decimal with `count` digits that is nearest to the magnitude among those that read back to
it, if one of its two neighbours with so many digits does; a tie goes up. -/
def Magnitude.decimalOfLength? (magnitude : Magnitude) (count : Nat) : Option (Nat × Int) :=
  let exponent := magnitude.decimalScale - count
  let numerator := magnitude.units * 10 ^ (-exponent).toNat
  let denominator := unitsPerOne * 10 ^ exponent.toNat
  let below := numerator / denominator
  let readsBack (significand : Nat) : Bool :=
    ofDecimal false significand exponent = .finite false magnitude
  match readsBack below, readsBack (below + 1) with
  | true, true =>
      if 2 * (numerator % denominator) < denominator then some (below, exponent)
      else some (below + 1, exponent)
  | true, false => some (below, exponent)
  | false, true => some (below + 1, exponent)
  | false, false => none

/-- The shortest decimal that reads back to the magnitude. Seventeen digits always do. -/
def Magnitude.shortestDecimal (magnitude : Magnitude) : Nat × Int :=
  ((List.range 17).findSome? fun fewer => magnitude.decimalOfLength? (fewer + 1)).getD (0, 0)

/-- The text of a value. -/
def write : Binary64 → List Char
  | .nan => "NaN".toList
  | .infinite negative => if negative then "-inf".toList else "inf".toList
  | .finite negative magnitude =>
      let digits :=
        if magnitude.units = 0 then ['0']
        else writePositional magnitude.shortestDecimal.1 magnitude.shortestDecimal.2
      if negative then '-' :: digits else digits

end AdmissionControl.Binary64
