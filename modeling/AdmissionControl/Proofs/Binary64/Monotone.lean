import AdmissionControl.Proofs.Binary64.Rounding

/-!
# Rounding is monotone

Of two ratios with one denominator the larger one is never rounded to less. On one grid that is so
because rounding to a whole number is monotone; between two grids a power of two stands that neither
rounding passes. The whole part of a product with a factor below one is therefore monotone in the
other factor. With the greatest such factor the product of a whole number is not rounded below the
number before it.
-/

namespace AdmissionControl.Binary64

theorem le_roundHalfEven (numerator denominator : Nat) :
    numerator / denominator ≤ roundHalfEven numerator denominator := by
  unfold roundHalfEven
  dsimp only
  split <;> omega

/-- Rounding to a whole number is monotone. -/
theorem roundHalfEven_mono {smaller larger : Nat} (ordered : smaller ≤ larger)
    (denominator : Nat) :
    roundHalfEven smaller denominator ≤ roundHalfEven larger denominator := by
  have quotients : smaller / denominator ≤ larger / denominator := Nat.div_le_div_right ordered
  rcases Nat.eq_or_lt_of_le quotients with same | less
  · -- With one quotient the remainders decide, and the larger remainder is rounded up first.
    have remainders : smaller % denominator ≤ larger % denominator := by
      have ofSmaller := Nat.div_add_mod smaller denominator
      have ofLarger := Nat.div_add_mod larger denominator
      rw [same] at ofSmaller
      omega
    unfold roundHalfEven
    dsimp only
    rw [same]
    split <;> split <;> omega
  · calc roundHalfEven smaller denominator ≤ smaller / denominator + 1 := roundHalfEven_le _ _
      _ ≤ larger / denominator := less
      _ ≤ roundHalfEven larger denominator := le_roundHalfEven _ _

/-- A ratio on a coarse grid lies past the first count of its binade. -/
theorem le_of_gridExponent_pos {units : Nat} (coarse : 0 < gridExponent units) :
    2 ^ (52 + gridExponent units) ≤ units := by
  have nonzero : units ≠ 0 := by
    rintro rfl
    exact absurd coarse (by decide)
  refine Nat.le_trans (Nat.pow_le_pow_right Nat.two_pos ?_) (Nat.log2_self_le nonzero)
  unfold gridExponent at coarse ⊢
  omega

/-- Rounding on a grid does not go below the first count of the binade. -/
theorem le_nearestUnits {numerator denominator : Nat}
    (reached : 2 ^ (52 + gridExponent (numerator / denominator)) ≤ numerator / denominator) :
    2 ^ (52 + gridExponent (numerator / denominator)) ≤ nearestUnits numerator denominator := by
  unfold nearestUnits
  generalize gridExponent (numerator / denominator) = exponent at reached
  rw [Nat.pow_add] at reached ⊢
  have significand : 2 ^ 52 ≤ numerator / (denominator * 2 ^ exponent) := by
    rw [← Nat.div_div_eq_div_mul]
    exact (Nat.le_div_iff_mul_le (Nat.two_pow_pos exponent)).mpr reached
  exact Nat.mul_le_mul_right _ (Nat.le_trans significand (le_roundHalfEven _ _))

/-- Rounding is monotone. -/
theorem nearestUnits_mono {smaller larger denominator : Nat} (positive : 0 < denominator)
    (ordered : smaller ≤ larger) :
    nearestUnits smaller denominator ≤ nearestUnits larger denominator := by
  have quotients : smaller / denominator ≤ larger / denominator := Nat.div_le_div_right ordered
  rcases Nat.eq_or_lt_of_le (gridExponent_mono quotients) with same | finer
  · unfold nearestUnits
    rw [same]
    exact Nat.mul_le_mul_right _ (roundHalfEven_mono ordered _)
  · -- The first count of the coarser grid lies between the two.
    have reached := le_of_gridExponent_pos (Nat.zero_lt_of_lt finer)
    have notReached :
        smaller / denominator < 2 ^ (52 + gridExponent (larger / denominator)) := by
      refine Nat.lt_of_lt_of_le Nat.lt_log2_self (Nat.pow_le_pow_right Nat.two_pos ?_)
      unfold gridExponent at finer ⊢
      omega
    have onGrid (exponent : Nat) : 2 ^ gridExponent (2 ^ exponent) ∣ 2 ^ exponent := by
      rw [← Nat.one_mul (2 ^ exponent)]
      exact gridExponent_dvd (by decide)
    calc nearestUnits smaller denominator
        ≤ 2 ^ (52 + gridExponent (larger / denominator)) :=
          nearestUnits_le positive (onGrid _)
            (Nat.le_of_lt ((Nat.div_lt_iff_lt_mul positive).mp notReached))
      _ ≤ nearestUnits larger denominator := le_nearestUnits reached

/-- Rounding does not go below a whole number that the exact ratio reaches. -/
theorem le_nearestUnits_of_whole {whole numerator : Nat} (small : whole ≤ 2 ^ 53)
    (reached : whole * unitsPerOne * unitsPerOne ≤ numerator) :
    whole * unitsPerOne ≤ nearestUnits numerator unitsPerOne := by
  have rounded := nearestUnits_mono unitsPerOne_pos reached
  rwa [nearestUnits_mul unitsPerOne_pos (gridExponent_mul_unitsPerOne_dvd small)] at rounded

/-- The whole part of a product with a factor below one is monotone in the other factor. -/
theorem floorWithin_mul_mono {smaller larger : Nat} {factor : Magnitude} (greatest : Nat)
    (ordered : smaller ≤ larger) (small : larger ≤ 2 ^ 53)
    (belowOne : factor.units < unitsPerOne) :
    (ofNat smaller * .finite false factor).floorWithin greatest
      ≤ (ofNat larger * .finite false factor).floorWithin greatest := by
  have rounded : nearestUnits (smaller * unitsPerOne * factor.units) unitsPerOne
      ≤ nearestUnits (larger * unitsPerOne * factor.units) unitsPerOne :=
    nearestUnits_mono unitsPerOne_pos
      (Nat.mul_le_mul_right _ (Nat.mul_le_mul_right _ ordered))
  obtain ⟨_, ofSmaller⟩ := exists_ofNat_mul_eq (Nat.le_trans ordered small) belowOne
  obtain ⟨_, ofLarger⟩ := exists_ofNat_mul_eq small belowOne
  rw [ofSmaller, ofLarger, floorWithin_finite, floorWithin_finite]
  have wholes := Nat.div_le_div_right (c := unitsPerOne) rounded
  dsimp only
  omega

section BelowOne

-- In this section the counts of units in one and in the gap are left open where numbers are
-- compared, so that nothing computes them.

theorem mul_gap_lt {one gap : Nat} (positive : 0 < gap) (whole : one = 2 ^ 53 * gap) :
    (2 ^ 53 - 1) * gap < one := by
  omega

theorem unitsPerOne_lt_unitBound : unitsPerOne < unitBound := by
  rw [unitsPerOne, unitBound]
  exact Nat.pow_lt_pow_right Nat.one_lt_two (by decide)

theorem mul_gapBelowOne_lt : (2 ^ 53 - 1) * gapBelowOne < unitsPerOne :=
  mul_gap_lt gapBelowOne_pos unitsPerOne_eq

theorem representable_mul_gapBelowOne : Representable ((2 ^ 53 - 1) * gapBelowOne) := by
  refine ⟨Nat.lt_trans mul_gapBelowOne_lt unitsPerOne_lt_unitBound, ?_⟩
  rw [gapBelowOne]
  exact gridExponent_dvd (Nat.sub_le _ _)

/-- The greatest magnitude below one. -/
def Magnitude.belowOne : Magnitude := ⟨(2 ^ 53 - 1) * gapBelowOne, representable_mul_gapBelowOne⟩

/-- In numbers of at most 53 bits the greatest factor below one takes less than one off. -/
theorem mul_le_succ_mul_gap {number one gap : Nat} (small : number + 1 ≤ 2 ^ 53)
    (whole : one = 2 ^ 53 * gap) :
    number * one * one ≤ (number + 1) * one * ((2 ^ 53 - 1) * gap) := by
  have scaled : number * 2 ^ 53 ≤ (number + 1) * (2 ^ 53 - 1) := by omega
  calc number * one * one = number * one * (2 ^ 53 * gap) := by rw [← whole]
    _ = number * 2 ^ 53 * (one * gap) := by ac_rfl
    _ ≤ (number + 1) * (2 ^ 53 - 1) * (one * gap) := Nat.mul_le_mul_right _ scaled
    _ = (number + 1) * one * ((2 ^ 53 - 1) * gap) := by ac_rfl

/-- The product with the greatest factor below one is not rounded below the number before. -/
theorem le_floorWithin_mul_belowOne {number greatest : Nat} (small : number + 1 ≤ 2 ^ 53)
    (bounded : number ≤ greatest) :
    number ≤ (ofNat (number + 1) * .finite false .belowOne).floorWithin greatest := by
  have belowOne : Magnitude.belowOne.units < unitsPerOne := mul_gapBelowOne_lt
  obtain ⟨_, product⟩ := exists_ofNat_mul_eq small belowOne
  have rounded := le_nearestUnits_of_whole (Nat.le_of_lt small)
    (mul_le_succ_mul_gap small unitsPerOne_eq)
  rw [product, floorWithin_finite]
  exact Nat.le_min.mpr ⟨bounded, (Nat.le_div_iff_mul_le unitsPerOne_pos).mpr rounded⟩

end BelowOne

end AdmissionControl.Binary64
