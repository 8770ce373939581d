import AdmissionControl.Proofs.Binary64.Monotone
import AdmissionControl.Proofs.Binary64.Whole

/-!
# A thousandfold value

A value times a thousand is infinite exactly if the exact product lies past the finite values: no
representable value has its thousandfold between the greatest finite one and the bound. Sums and
quotients of small values stay small, and rounding a finite value to a whole number keeps it finite.
-/

namespace AdmissionControl.Binary64

/-- The bound as a whole number. -/
theorem unitBound_eq_two_pow_mul : unitBound = 2 ^ (totalBits - fractionBits) * unitsPerOne := by
  rw [unitBound, unitsPerOne, ← Nat.pow_add]
  congr 1

section Whole

/-- Rounding to a whole number is exact and keeps the sign. -/
theorem round_finite (negative : Bool) (magnitude : Magnitude) :
    (finite negative magnitude).round
      = .finite negative
          ⟨nearestWhole magnitude.units * unitsPerOne, magnitude.representable_nearestWhole⟩ := by
  rw [round]
  refine ofRatio_eq negative ?_ _
  have exact := nearestUnits_mul Nat.one_pos magnitude.representable_nearestWhole.2
  rwa [Nat.mul_one] at exact

end Whole

section Thousand

/-- A thousand has few bits. -/
theorem ofNat_thousand :
    ofNat 1000 = .finite false ⟨1000 * unitsPerOne, representable_mul_unitsPerOne (by decide)⟩ :=
  ofNat_eq (by decide)

/-- A magnitude whose thousandfold lies below the bound has it at the greatest finite magnitude at
most. The spacing is left open here, so that nothing computes it. -/
theorem thousandfold_le {units spacing : Nat} (onGrid : 2 ^ 52 * spacing ≤ units → spacing ∣ units)
    (below : units * 1000 < 2 ^ 62 * spacing) :
    units * 1000 ≤ (2 ^ 53 - 1) * (2 ^ 9 * spacing) := by
  by_cases coarse : 2 ^ 52 * spacing ≤ units
  · obtain ⟨steps, rfl⟩ := onGrid coarse
    have regrouped : spacing * steps * 1000 = steps * 1000 * spacing := by ac_rfl
    have target : (2 ^ 53 - 1) * (2 ^ 9 * spacing) = (2 ^ 53 - 1) * 2 ^ 9 * spacing := by ac_rfl
    rw [regrouped] at below ⊢
    rw [target]
    have few : steps * 1000 < 2 ^ 62 := Nat.lt_of_mul_lt_mul_right below
    exact Nat.mul_le_mul_right spacing (by omega)
  · omega

/-- The spacing of magnitudes that lie a thousand times below the bound. -/
def thousandthSpacing : Nat := 2 ^ (totalBits - 62)

theorem unitBound_eq : unitBound = 2 ^ 62 * thousandthSpacing := by
  rw [unitBound, thousandthSpacing, ← Nat.pow_add]
  congr 1

/-- Magnitudes from there on are counts of that spacing. -/
theorem Magnitude.thousandthSpacing_dvd (magnitude : Magnitude)
    (coarse : 2 ^ 52 * thousandthSpacing ≤ magnitude.units) :
    thousandthSpacing ∣ magnitude.units := by
  refine Nat.dvd_trans (Nat.pow_dvd_pow 2 ?_) magnitude.representable.2
  rw [thousandthSpacing, ← Nat.pow_add] at coarse
  have nonzero : magnitude.units ≠ 0 :=
    Nat.ne_of_gt (Nat.lt_of_lt_of_le (Nat.two_pow_pos _) coarse)
  have bits := (Nat.le_log2 nonzero).mpr coarse
  unfold gridExponent
  omega

/-- The greatest finite magnitude lies on its grid. -/
theorem greatest_onGrid :
    2 ^ gridExponent ((2 ^ 53 - 1) * (2 ^ 9 * thousandthSpacing))
      ∣ (2 ^ 53 - 1) * (2 ^ 9 * thousandthSpacing) := by
  rw [thousandthSpacing, ← Nat.pow_add]
  exact gridExponent_dvd (Nat.sub_le _ _)

/-- The thousandfold of a magnitude is rounded to a finite value exactly if it lies below the bound
itself. -/
theorem Magnitude.nearestUnits_thousandfold_lt_iff (magnitude : Magnitude) :
    nearestUnits (magnitude.units * 1000 * unitsPerOne) unitsPerOne < unitBound
      ↔ magnitude.units * 1000 < unitBound := by
  constructor
  · refine fun finite => Nat.lt_of_not_le fun reached => ?_
    have boundOnGrid : 2 ^ gridExponent unitBound ∣ unitBound := by
      rw [unitBound, ← Nat.one_mul (2 ^ totalBits)]
      exact gridExponent_dvd (by decide)
    have rounded := nearestUnits_mono unitsPerOne_pos
      (Nat.mul_le_mul_right unitsPerOne reached)
    rw [nearestUnits_mul unitsPerOne_pos boundOnGrid] at rounded
    exact absurd finite (Nat.not_lt.mpr rounded)
  · intro below
    rw [unitBound_eq] at below ⊢
    have bounded := thousandfold_le magnitude.thousandthSpacing_dvd below
    have positive : 0 < thousandthSpacing := Nat.two_pow_pos _
    have rounded := nearestUnits_le unitsPerOne_pos greatest_onGrid
      (Nat.mul_le_mul_right unitsPerOne bounded)
    omega

/-- The thousandfold of a value: finite while it lies below the bound, and else infinite. -/
theorem finite_mul_thousand (negative : Bool) (magnitude : Magnitude) :
    (magnitude.units * 1000 < unitBound →
        ∃ scaled, finite negative magnitude * ofNat 1000 = .finite negative scaled)
      ∧ (unitBound ≤ magnitude.units * 1000 →
        finite negative magnitude * ofNat 1000 = .infinite negative) := by
  have product : finite negative magnitude * ofNat 1000
      = ofRatio negative (magnitude.units * 1000 * unitsPerOne) unitsPerOne := by
    rw [ofNat_thousand, finite_mul_finite, Bool.bne_false, Nat.mul_assoc]
  rw [product, ofRatio]
  constructor
  · exact fun below => ⟨_, dif_pos (magnitude.nearestUnits_thousandfold_lt_iff.mpr below)⟩
  · refine fun reached => dif_neg fun finite => ?_
    exact absurd (magnitude.nearestUnits_thousandfold_lt_iff.mp finite) (Nat.not_lt.mpr reached)

end Thousand

section Small

/-- A value from zero to a power of two, in units. -/
def IsWithin (exponent : Nat) (value : Binary64) : Prop :=
  ∃ magnitude : Magnitude, value = .finite false magnitude
    ∧ magnitude.units ≤ 2 ^ exponent * unitsPerOne

variable {exponent : Nat}

theorem two_pow_onGrid (exponent : Nat) :
    2 ^ gridExponent (2 ^ exponent * unitsPerOne) ∣ 2 ^ exponent * unitsPerOne := by
  rw [two_pow_mul_unitsPerOne, ← Nat.one_mul (2 ^ (exponent + fractionBits))]
  exact gridExponent_dvd (by decide)

/-- A ratio up to a power of two is rounded to a value up to it. -/
theorem isWithin_ofRatio {numerator denominator : Nat} (positive : 0 < denominator)
    (finite : exponent + fractionBits < totalBits)
    (bounded : numerator ≤ 2 ^ exponent * unitsPerOne * denominator) :
    (ofRatio false numerator denominator).IsWithin exponent := by
  have rounded := nearestUnits_le positive (two_pow_onGrid exponent) bounded
  have below := Nat.lt_of_le_of_lt rounded (mul_unitsPerOne_lt_unitBound (Nat.le_refl _) finite)
  exact ⟨_, dif_pos below, rounded⟩

theorem isWithin_ofNat {number : Nat} (finite : exponent + fractionBits < totalBits)
    (bounded : number ≤ 2 ^ exponent) : (ofNat number).IsWithin exponent := by
  refine isWithin_ofRatio Nat.one_pos finite ?_
  rw [Nat.mul_one]
  exact Nat.mul_le_mul_right _ bounded

/-- The sum of two values up to a power of two is a value up to the next one. -/
theorem IsWithin.add {left right : Binary64} (ofLeft : left.IsWithin exponent)
    (ofRight : right.IsWithin exponent) (finite : exponent + 1 + fractionBits < totalBits) :
    (left + right).IsWithin (exponent + 1) := by
  obtain ⟨leftMagnitude, rfl, leftBound⟩ := ofLeft
  obtain ⟨rightMagnitude, rfl, rightBound⟩ := ofRight
  have sum : (Binary64.finite false leftMagnitude + Binary64.finite false rightMagnitude : Binary64)
      = ofRatio false (leftMagnitude.units + rightMagnitude.units) 1 := by
    change Binary64.add _ _ = _
    rw [Binary64.add, ofUnits]
    simp only [Bool.false_eq_true, if_false, Bool.and_false]
    congr 1
    split
    · rfl
    · exact decide_eq_false (by omega)
  rw [sum]
  refine isWithin_ofRatio Nat.one_pos finite ?_
  have doubled : 2 ^ (exponent + 1) * unitsPerOne
      = 2 ^ exponent * unitsPerOne + 2 ^ exponent * unitsPerOne := by
    rw [Nat.pow_succ, Nat.mul_two, Nat.add_mul]
  omega

/-- The quotient of a small number by another one that is not less is at most one. -/
theorem isWithin_ofNat_div {number divisor : Nat} (small : divisor ≤ 2 ^ 53)
    (positive : 0 < divisor) (bounded : number ≤ divisor) :
    (ofNat number / ofNat divisor).IsWithin 0 := by
  have nonzero : divisor * unitsPerOne ≠ 0 :=
    Nat.mul_ne_zero (Nat.ne_of_gt positive) (Nat.ne_of_gt unitsPerOne_pos)
  have quotient : ofNat number / ofNat divisor
      = ofRatio false (number * unitsPerOne * unitsPerOne) (divisor * unitsPerOne) := by
    rw [ofNat_eq (Nat.le_trans bounded small), ofNat_eq small]
    change div _ _ = _
    rw [div, if_neg nonzero]
    rfl
  rw [quotient]
  refine isWithin_ofRatio (Nat.pos_of_ne_zero nonzero) (by decide) ?_
  calc number * unitsPerOne * unitsPerOne
      ≤ divisor * unitsPerOne * unitsPerOne :=
        Nat.mul_le_mul_right _ (Nat.mul_le_mul_right _ bounded)
    _ = 2 ^ 0 * unitsPerOne * (divisor * unitsPerOne) := by
        rw [Nat.pow_zero, Nat.one_mul, Nat.mul_comm]

theorem IsWithin.mono {value : Binary64} (isWithin : value.IsWithin exponent) {larger : Nat}
    (ordered : exponent ≤ larger) : value.IsWithin larger := by
  obtain ⟨magnitude, eq, bounded⟩ := isWithin
  refine ⟨magnitude, eq, Nat.le_trans bounded (Nat.mul_le_mul_right _ ?_)⟩
  exact Nat.pow_le_pow_right Nat.two_pos ordered

end Small

end AdmissionControl.Binary64
