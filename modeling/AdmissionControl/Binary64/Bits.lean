import AdmissionControl.Binary64.Basic

/-!
# Interchange bits

The 64-bit word of a value holds a sign bit, eleven exponent bits and fifty-two fraction bits.
Below `2 ^ 52` units the fraction is the count itself; above, the leading bit of the significand
is implied by a nonzero exponent field.
-/

namespace AdmissionControl.Binary64

/-- The value of an interchange word. -/
def ofBits (word : UInt64) : Binary64 :=
  let negative := word.toNat / 2 ^ 63 == 1
  let exponent := word.toNat / 2 ^ 52 % 2 ^ 11
  let fraction := word.toNat % 2 ^ 52
  if exponent = 2047 then
    if fraction = 0 then .infinite negative else .nan
  else if exponent = 0 then
    ofRatio negative fraction 1
  else
    ofRatio negative ((2 ^ 52 + fraction) * 2 ^ (exponent - 1)) 1

/-- The word of a magnitude, its sign bit clear. A significand of 53 bits carries into the exponent
field, so one sum serves both below and above `2 ^ 52` units. -/
def Magnitude.toBits (magnitude : Magnitude) : Nat :=
  let exponent := gridExponent magnitude.units
  exponent * 2 ^ 52 + magnitude.units / 2 ^ exponent

/-- The interchange word of a value; a not-a-number has the quiet one without payload. -/
def toBits : Binary64 → UInt64
  | .nan => 0x7ff8000000000000
  | .infinite negative => (if negative then 0x8000000000000000 else 0) + 0x7ff0000000000000
  | .finite negative magnitude =>
      (if negative then 0x8000000000000000 else 0) + UInt64.ofNat magnitude.toBits

end AdmissionControl.Binary64
