import AdmissionControl.Binary64.Basic

/-!
# Arithmetic on binary64 values

Each operation states its exact result as a ratio of units and rounds it once. The clamped
conversions to whole numbers send a not-a-number to zero and everything outside the range to the
nearer end of it.
-/

namespace AdmissionControl.Binary64

/-- The value nearest to a signed count of units; a zero count takes the sign given for it. -/
def ofUnits (signOfZero : Bool) (units : Int) : Binary64 :=
  ofRatio (if units = 0 then signOfZero else decide (units < 0)) units.natAbs 1

/-- The rounded sum. A zero sum is negative only if both sides are. -/
def add : Binary64 → Binary64 → Binary64
  | .nan, _ => .nan
  | _, .nan => .nan
  | .infinite left, .infinite right => if left = right then .infinite left else .nan
  | .infinite left, .finite _ _ => .infinite left
  | .finite _ _, .infinite right => .infinite right
  | .finite leftSign left, .finite rightSign right =>
      let signed (negative : Bool) (magnitude : Magnitude) : Int :=
        if negative then -(magnitude.units : Int) else magnitude.units
      ofUnits (leftSign && rightSign) (signed leftSign left + signed rightSign right)

/-- The rounded product. -/
def mul : Binary64 → Binary64 → Binary64
  | .nan, _ => .nan
  | _, .nan => .nan
  | .infinite left, .infinite right => .infinite (left != right)
  | .infinite left, .finite rightSign right =>
      if right.units = 0 then .nan else .infinite (left != rightSign)
  | .finite leftSign left, .infinite right =>
      if left.units = 0 then .nan else .infinite (leftSign != right)
  | .finite leftSign left, .finite rightSign right =>
      ofRatio (leftSign != rightSign) (left.units * right.units) unitsPerOne

/-- The rounded quotient. -/
def div : Binary64 → Binary64 → Binary64
  | .nan, _ => .nan
  | _, .nan => .nan
  | .infinite _, .infinite _ => .nan
  | .infinite left, .finite rightSign _ => .infinite (left != rightSign)
  | .finite leftSign _, .infinite right => .finite (leftSign != right) .zero
  | .finite leftSign left, .finite rightSign right =>
      if right.units = 0 then
        if left.units = 0 then .nan else .infinite (leftSign != rightSign)
      else
        ofRatio (leftSign != rightSign) (left.units * unitsPerOne) right.units

instance : Add Binary64 := ⟨add⟩
instance : Mul Binary64 := ⟨mul⟩
instance : Div Binary64 := ⟨div⟩

/-- The whole number nearest to the value, a half going away from zero. -/
def round : Binary64 → Binary64
  | .finite negative magnitude =>
      ofRatio negative
        ((magnitude.units + unitsPerOne / 2) / unitsPerOne * unitsPerOne) 1
  | value => value

/-- The greatest whole number not above the value, brought into `0 ... greatest`. -/
def floorWithin (greatest : Nat) : Binary64 → Nat
  | .nan => 0
  | .infinite negative => if negative then 0 else greatest
  | .finite negative magnitude =>
      if negative then 0 else min greatest (magnitude.units / unitsPerOne)

/-- The whole number nearest to the value, brought into `0 ... greatest`. -/
def roundWithin (greatest : Nat) (value : Binary64) : Nat := value.round.floorWithin greatest

theorem floorWithin_le (greatest : Nat) (value : Binary64) :
    value.floorWithin greatest ≤ greatest := by
  cases value with
  | nan => exact Nat.zero_le _
  | infinite negative => cases negative <;> simp [floorWithin]
  | finite negative magnitude =>
      cases negative with
      | false => exact Nat.min_le_left _ _
      | true => exact Nat.zero_le _

end AdmissionControl.Binary64
