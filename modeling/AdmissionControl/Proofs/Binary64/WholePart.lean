import AdmissionControl.Proofs.Binary64.Monotone

/-!
# The whole part of a rounded product

Rounding does not take a product below a whole number that it has reached, for whole numbers are
representable. Nor does it carry a product up to the next one if a representable count stands
between. So a factor that lies on a fraction or slightly above it takes exactly the whole part of
that fraction of a number, although it is not the fraction itself. A factor slightly below loses one
where the fraction of a number is whole.
-/

namespace AdmissionControl.Binary64

variable {exponent : Nat}

/-- A product that lies at least one part below a whole number is rounded to less than it. -/
theorem nearestUnits_lt_of_part {product whole : Nat} (fine : exponent ≤ fractionBits)
    (few : whole * 2 ^ exponent ≤ 2 ^ 53)
    (apart : product + part exponent ≤ whole * unitsPerOne) :
    nearestUnits (product * unitsPerOne) unitsPerOne < whole * unitsPerOne := by
  have regrouped : whole * unitsPerOne = whole * 2 ^ exponent * part exponent := by
    rw [unitsPerOne_eq_mul_part fine, Nat.mul_assoc]
  have partPositive : 0 < part exponent := Nat.two_pow_pos _
  have positive : 0 < whole * 2 ^ exponent * part exponent := by omega
  -- The last count of parts before the whole number stands between.
  have between : (whole * 2 ^ exponent - 1) * part exponent + part exponent
      = whole * unitsPerOne := by
    rw [regrouped, ← Nat.succ_mul, Nat.succ_eq_add_one,
      Nat.sub_add_cancel (Nat.pos_of_mul_pos_right positive)]
  have onGrid : 2 ^ gridExponent ((whole * 2 ^ exponent - 1) * part exponent)
      ∣ (whole * 2 ^ exponent - 1) * part exponent :=
    gridExponent_dvd (Nat.le_trans (Nat.sub_le _ _) few)
  have bounded : product ≤ (whole * 2 ^ exponent - 1) * part exponent := by omega
  have rounded := nearestUnits_le unitsPerOne_pos onGrid (Nat.mul_le_mul_right unitsPerOne bounded)
  omega

section Product

variable {number : Nat} {factor : Magnitude} (greatest : Nat) (fine : exponent ≤ fractionBits)
  (few : (number + 1) * 2 ^ exponent ≤ 2 ^ 53) (belowOne : factor.units < unitsPerOne)

include fine few belowOne

/-- The whole part of a product that stays one part below the next whole number is not changed by
rounding. -/
theorem floorWithin_mul_eq {whole : Nat} (reached : whole * unitsPerOne ≤ number * factor.units)
    (apart : number * factor.units + part exponent ≤ (whole + 1) * unitsPerOne) :
    (ofNat number * .finite false factor).floorWithin greatest = min greatest whole := by
  have small : number + 1 ≤ 2 ^ 53 :=
    Nat.le_trans (Nat.le_mul_of_pos_right _ (Nat.two_pow_pos exponent)) few
  have wholeLe : whole ≤ number := by
    refine Nat.le_of_mul_le_mul_right ?_ unitsPerOne_pos
    exact Nat.le_trans reached (Nat.mul_le_mul_left _ (Nat.le_of_lt belowOne))
  have atLeast : whole * unitsPerOne
      ≤ nearestUnits (number * factor.units * unitsPerOne) unitsPerOne :=
    le_nearestUnits_of_whole (by omega) (Nat.mul_le_mul_right unitsPerOne reached)
  have below : nearestUnits (number * factor.units * unitsPerOne) unitsPerOne
      < (whole + 1) * unitsPerOne :=
    nearestUnits_lt_of_part fine
      (Nat.le_trans (Nat.mul_le_mul_right _ (Nat.succ_le_succ wholeLe)) few) apart
  rw [← Nat.mul_right_comm number] at atLeast below
  obtain ⟨_, product⟩ := exists_ofNat_mul_eq (Nat.le_of_succ_le small) belowOne
  rw [product, floorWithin_finite]
  exact congrArg (min greatest) (Nat.div_eq_of_lt_le atLeast below)

/-- A factor that lies on a fraction or slightly above it takes the whole part of that fraction of a
number. It is slight enough above if what it takes too much, and one part for every unit of the
denominator, do not come to more than one. -/
theorem floorWithin_mul_fraction {numerator denominator excess : Nat} (positive : 0 < denominator)
    (above : denominator * factor.units = numerator * unitsPerOne + excess)
    (slight : number * excess + denominator * part exponent ≤ unitsPerOne) :
    (ofNat number * .finite false factor).floorWithin greatest
      = min greatest (numerator * number / denominator) := by
  have shares : denominator * (number * factor.units)
      = numerator * number * unitsPerOne + number * excess := by
    calc denominator * (number * factor.units) = number * (denominator * factor.units) := by ac_rfl
      _ = number * (numerator * unitsPerOne + excess) := by rw [above]
      _ = numerator * number * unitsPerOne + number * excess := by
        rw [Nat.mul_add, Nat.mul_left_comm, Nat.mul_assoc]
  refine floorWithin_mul_eq greatest fine few belowOne ?_ ?_
  · refine Nat.le_of_mul_le_mul_left ?_ positive
    calc denominator * (numerator * number / denominator * unitsPerOne)
        = denominator * (numerator * number / denominator) * unitsPerOne := by
          rw [Nat.mul_assoc]
      _ ≤ numerator * number * unitsPerOne := Nat.mul_le_mul_right _ (Nat.mul_div_le _ _)
      _ ≤ denominator * (number * factor.units) := by
          rw [shares]
          exact Nat.le_add_right _ _
  · refine Nat.le_of_mul_le_mul_left ?_ positive
    calc denominator * (number * factor.units + part exponent)
        = numerator * number * unitsPerOne + (number * excess + denominator * part exponent) := by
          rw [Nat.mul_add, shares, Nat.add_assoc]
      _ ≤ (numerator * number + 1) * unitsPerOne := by
          rw [Nat.succ_mul]
          exact Nat.add_le_add_left slight _
      _ ≤ denominator * (numerator * number / denominator + 1) * unitsPerOne :=
          Nat.mul_le_mul_right _ (Nat.lt_mul_div_succ _ positive)
      _ = denominator * ((numerator * number / denominator + 1) * unitsPerOne) :=
          Nat.mul_assoc _ _ _

/-- The value nearest to 57 hundredths lies below them, and so does its product with a hundred. -/
example : (ofNat 100 * ofRatio false (57 * unitsPerOne) 100).floorWithin 100 = 56 := by
  decide +kernel

end Product

end AdmissionControl.Binary64
