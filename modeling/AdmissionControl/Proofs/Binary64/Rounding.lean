import AdmissionControl.Binary64.Arithmetic

/-!
# Bounds on rounding

A rounded ratio never passes a representable count that the exact ratio does not pass, and a
representable count is its own rounding. Two facts about the limiter's arithmetic follow: whole
numbers up to `2 ^ 53` are exact, and the product of such a number with a factor below one comes out
strictly below it.
-/

namespace AdmissionControl.Binary64

/-- Rounding to a whole number does not pass a whole number above the ratio. -/
theorem roundHalfEven_le_of_le {numerator denominator bound : Nat} (positive : 0 < denominator)
    (bounded : numerator ≤ bound * denominator) :
    roundHalfEven numerator denominator ≤ bound := by
  have split := Nat.div_add_mod numerator denominator
  have quotientBounded : numerator / denominator ≤ bound :=
    Nat.div_le_of_le_mul (by rwa [Nat.mul_comm])
  by_cases exact : numerator / denominator = bound
  · -- The quotient is the bound itself, so nothing remains to be rounded up.
    have noRemainder : numerator % denominator = 0 := by
      rw [exact, Nat.mul_comm] at split
      omega
    simp [roundHalfEven, noRemainder, positive, exact]
  · have rounded := roundHalfEven_le numerator denominator
    omega

/-- Rounding a whole multiple of the denominator is exact. -/
theorem roundHalfEven_mul {factor denominator : Nat} (positive : 0 < denominator) :
    roundHalfEven (factor * denominator) denominator = factor := by
  simp [roundHalfEven, positive, Nat.mul_div_cancel _ positive]

/-- Rounding to a whole number goes up by at most one half. -/
theorem two_mul_roundHalfEven_mul_le (numerator denominator : Nat) :
    2 * (roundHalfEven numerator denominator * denominator) ≤ 2 * numerator + denominator := by
  have split := Nat.div_add_mod numerator denominator
  rw [Nat.mul_comm denominator] at split
  unfold roundHalfEven
  dsimp only
  split
  · omega
  · have successor : (numerator / denominator + 1) * denominator
        = numerator / denominator * denominator + denominator := Nat.succ_mul _ _
    omega

/-- Larger counts lie on a coarser grid. -/
theorem gridExponent_mono {smaller larger : Nat} (ordered : smaller ≤ larger) :
    gridExponent smaller ≤ gridExponent larger := by
  unfold gridExponent
  have logarithms : smaller.log2 ≤ larger.log2 := by
    by_cases zero : smaller = 0
    · simp [zero]
    · refine (Nat.le_log2 (by omega)).mpr ?_
      exact Nat.le_trans (Nat.log2_self_le zero) ordered
  omega

/-- Rounding does not pass a count on the grid that the exact ratio does not pass. -/
theorem nearestUnits_le {numerator denominator bound : Nat} (positive : 0 < denominator)
    (onGrid : 2 ^ gridExponent bound ∣ bound) (bounded : numerator ≤ bound * denominator) :
    nearestUnits numerator denominator ≤ bound := by
  have quotientBounded : numerator / denominator ≤ bound :=
    Nat.div_le_of_le_mul (by rwa [Nat.mul_comm])
  have coarser : 2 ^ gridExponent (numerator / denominator) ∣ bound :=
    Nat.dvd_trans (Nat.pow_dvd_pow 2 (gridExponent_mono quotientBounded)) onGrid
  unfold nearestUnits
  generalize gridExponent (numerator / denominator) = exponent at coarser
  obtain ⟨steps, rfl⟩ := coarser
  rw [Nat.mul_comm]
  have divisor : 0 < denominator * 2 ^ exponent :=
    Nat.mul_pos positive (Nat.two_pow_pos exponent)
  refine Nat.mul_le_mul_left _ (roundHalfEven_le_of_le divisor ?_)
  calc numerator ≤ 2 ^ exponent * steps * denominator := bounded
    _ = steps * (denominator * 2 ^ exponent) := by ac_rfl

/-- A count on the grid is its own rounding. -/
theorem nearestUnits_mul {units denominator : Nat} (positive : 0 < denominator)
    (onGrid : 2 ^ gridExponent units ∣ units) :
    nearestUnits (units * denominator) denominator = units := by
  unfold nearestUnits
  rw [Nat.mul_div_cancel _ positive]
  generalize gridExponent units = exponent at onGrid
  obtain ⟨steps, rfl⟩ := onGrid
  have regrouped : 2 ^ exponent * steps * denominator = steps * (denominator * 2 ^ exponent) := by
    ac_rfl
  simp only [regrouped, roundHalfEven_mul (Nat.mul_pos positive (Nat.two_pow_pos exponent))]
  exact Nat.mul_comm _ _

theorem unitsPerOne_pos : 0 < unitsPerOne := Nat.two_pow_pos fractionBits

/-- A power of two as a count of units. -/
theorem two_pow_mul_unitsPerOne (exponent : Nat) :
    2 ^ exponent * unitsPerOne = 2 ^ (exponent + fractionBits) := by
  rw [unitsPerOne, ← Nat.pow_add]

/-- Whole numbers of at most 53 bits, and `2 ^ 53`, lie on the grid. -/
theorem gridExponent_mul_unitsPerOne_dvd {number : Nat} (small : number ≤ 2 ^ 53) :
    2 ^ gridExponent (number * unitsPerOne) ∣ number * unitsPerOne := by
  rw [unitsPerOne]
  exact gridExponent_dvd small

/-- Whole numbers far past 64 bits are still finite. -/
theorem mul_unitsPerOne_lt_unitBound {number exponent : Nat} (bounded : number ≤ 2 ^ exponent)
    (finite : exponent + fractionBits < totalBits) : number * unitsPerOne < unitBound := by
  calc number * unitsPerOne ≤ 2 ^ exponent * unitsPerOne := Nat.mul_le_mul_right _ bounded
    _ = 2 ^ (exponent + fractionBits) := two_pow_mul_unitsPerOne exponent
    _ < unitBound := Nat.pow_lt_pow_right Nat.one_lt_two finite

/-- Whole numbers of at most 53 bits are representable. -/
theorem representable_mul_unitsPerOne {number : Nat} (small : number ≤ 2 ^ 53) :
    Representable (number * unitsPerOne) :=
  ⟨mul_unitsPerOne_lt_unitBound small (by decide), gridExponent_mul_unitsPerOne_dvd small⟩

/-- A ratio that rounds to a representable count is finite with that count. -/
theorem ofRatio_eq {numerator denominator units : Nat} (negative : Bool)
    (rounded : nearestUnits numerator denominator = units) (representable : Representable units) :
    ofRatio negative numerator denominator = .finite negative ⟨units, representable⟩ := by
  subst rounded
  unfold ofRatio
  rw [dif_pos representable.1]

/-- Whole numbers of at most 53 bits are exact. -/
theorem ofNat_eq {number : Nat} (small : number ≤ 2 ^ 53) :
    ofNat number
      = .finite false ⟨number * unitsPerOne, representable_mul_unitsPerOne small⟩ := by
  refine ofRatio_eq false ?_ _
  have exact := nearestUnits_mul Nat.one_pos (gridExponent_mul_unitsPerOne_dvd small)
  rwa [Nat.mul_one] at exact

/-- Every 64-bit whole number rounds to a finite value that is not negative. -/
theorem exists_ofNat_eq {number : Nat} (bounded : number ≤ 2 ^ 64) :
    ∃ magnitude, ofNat number = .finite false magnitude := by
  have powerOnGrid : 2 ^ gridExponent (2 ^ 64 * unitsPerOne) ∣ 2 ^ 64 * unitsPerOne := by
    rw [two_pow_mul_unitsPerOne, ← Nat.one_mul (2 ^ (64 + fractionBits))]
    exact gridExponent_dvd (by decide)
  have rounded : nearestUnits (number * unitsPerOne) 1 ≤ 2 ^ 64 * unitsPerOne := by
    refine nearestUnits_le Nat.one_pos powerOnGrid ?_
    rw [Nat.mul_one]
    exact Nat.mul_le_mul_right _ bounded
  have finite : nearestUnits (number * unitsPerOne) 1 < unitBound :=
    Nat.lt_of_le_of_lt rounded (mul_unitsPerOne_lt_unitBound (Nat.le_refl _) (by decide))
  exact ⟨_, ofRatio_eq false rfl (nearestUnits_representable finite)⟩

/-- One of the `2 ^ exponent` equal parts of one, in units. -/
def part (exponent : Nat) : Nat := 2 ^ (fractionBits - exponent)

theorem unitsPerOne_eq_mul_part {exponent : Nat} (fine : exponent ≤ fractionBits) :
    unitsPerOne = 2 ^ exponent * part exponent := by
  rw [unitsPerOne, part, ← Nat.pow_add, Nat.add_sub_cancel' fine]

/-- The distance from one to the greatest value below it, in units. -/
def gapBelowOne : Nat := 2 ^ (fractionBits - 53)

theorem gapBelowOne_pos : 0 < gapBelowOne := Nat.two_pow_pos _

theorem unitsPerOne_eq : unitsPerOne = 2 ^ 53 * gapBelowOne := by
  rw [gapBelowOne, ← part]
  exact unitsPerOne_eq_mul_part (by decide)

/-- No magnitude lies between one and the greatest value below it. -/
theorem Magnitude.units_add_gapBelowOne_le {magnitude : Magnitude}
    (belowOne : magnitude.units < unitsPerOne) :
    magnitude.units + gapBelowOne ≤ unitsPerOne := by
  -- Only that the gap is a power of two matters, so nothing computes it.
  obtain ⟨exponent, gapEq⟩ : ∃ exponent : Nat, gapBelowOne = 2 ^ exponent := ⟨_, rfl⟩
  rw [unitsPerOne_eq, gapEq] at belowOne ⊢
  by_cases upperHalf : 2 ^ 52 * 2 ^ exponent ≤ magnitude.units
  · -- Between one half and one the spacing is the gap itself.
    have coarse : exponent ≤ gridExponent magnitude.units := by
      rw [← Nat.pow_add] at upperHalf
      have nonzero : magnitude.units ≠ 0 :=
        Nat.ne_of_gt (Nat.lt_of_lt_of_le (Nat.two_pow_pos _) upperHalf)
      have logarithm := (Nat.le_log2 nonzero).mpr upperHalf
      unfold gridExponent
      omega
    obtain ⟨steps, eq⟩ : 2 ^ exponent ∣ magnitude.units :=
      Nat.dvd_trans (Nat.pow_dvd_pow 2 coarse) magnitude.representable.2
    rw [eq, Nat.mul_comm] at belowOne ⊢
    have fewer : steps < 2 ^ 53 := Nat.lt_of_mul_lt_mul_right belowOne
    rw [← Nat.succ_mul]
    exact Nat.mul_le_mul_right _ fewer
  · have positive := Nat.two_pow_pos exponent
    omega

/-- The spacing around a count below `2 ^ 53` gaps is less than two gaps. -/
theorem two_pow_gridExponent_lt {units gap : Nat} (positive : 0 < gap)
    (bounded : units < 2 ^ 53 * gap) : 2 ^ gridExponent units < 2 * gap := by
  by_cases fine : gridExponent units = 0
  · rw [fine]
    omega
  · have nonzero : units ≠ 0 := by
      rintro rfl
      exact fine rfl
    have leading : 2 ^ gridExponent units * 2 ^ 52 ≤ units := by
      rw [← Nat.pow_add]
      refine Nat.le_trans (Nat.pow_le_pow_right Nat.two_pos ?_) (Nat.log2_self_le nonzero)
      unfold gridExponent at fine ⊢
      omega
    omega

/-- A product with a factor that is at least a gap below one is rounded to less than the other
factor. The counts of units in one and in the gap are left open here, so that nothing computes
them. -/
theorem nearestUnits_mul_lt {number factor one gap : Nat} (numberPositive : 0 < number)
    (gapPositive : 0 < gap) (whole : one = 2 ^ 53 * gap) (below : factor + gap ≤ one) :
    nearestUnits (number * one * factor) one < number * one := by
  have onePositive : 0 < one := by omega
  have taken : number * factor + number * gap ≤ number * one := by
    rw [← Nat.mul_add]
    exact Nat.mul_le_mul_left number below
  have takenPositive : 0 < number * gap := Nat.mul_pos numberPositive gapPositive
  have spacing : 2 ^ gridExponent (number * factor) < 2 * (number * gap) := by
    refine two_pow_gridExponent_lt takenPositive ?_
    have regrouped : number * one = 2 ^ 53 * (number * gap) := by
      rw [whole]
      ac_rfl
    omega
  have exact : number * one * factor = number * factor * one := by ac_rfl
  unfold nearestUnits
  rw [exact, Nat.mul_div_cancel _ onePositive]
  generalize 2 ^ gridExponent (number * factor) = grid at spacing
  dsimp only
  have rounded := two_mul_roundHalfEven_mul_le (number * factor * one) (one * grid)
  generalize roundHalfEven (number * factor * one) (one * grid) = steps at rounded
  have inUnits : 2 * (steps * grid) ≤ 2 * (number * factor) + grid := by
    refine Nat.le_of_mul_le_mul_left ?_ onePositive
    calc one * (2 * (steps * grid)) = 2 * (steps * (one * grid)) := by ac_rfl
      _ ≤ 2 * (number * factor * one) + one * grid := rounded
      _ = one * (2 * (number * factor) + grid) := by
        rw [Nat.mul_add]
        ac_rfl
  omega

theorem finite_mul_finite (leftSign rightSign : Bool) (left right : Magnitude) :
    (finite leftSign left * finite rightSign right : Binary64)
      = ofRatio (leftSign != rightSign) (left.units * right.units) unitsPerOne := by
  change mul _ _ = _
  rw [mul]

theorem floorWithin_finite (greatest : Nat) (magnitude : Magnitude) :
    (finite false magnitude).floorWithin greatest
      = min greatest (magnitude.units / unitsPerOne) := by
  rw [floorWithin, if_neg Bool.false_ne_true]

/-- A number times a factor below one is finite. -/
theorem exists_ofNat_mul_eq {number : Nat} {factor : Magnitude} (small : number ≤ 2 ^ 53)
    (belowOne : factor.units < unitsPerOne) :
    ∃ representable, ofNat number * .finite false factor
      = .finite false
          ⟨nearestUnits (number * unitsPerOne * factor.units) unitsPerOne, representable⟩ := by
  have bounded : nearestUnits (number * unitsPerOne * factor.units) unitsPerOne
      ≤ number * unitsPerOne :=
    nearestUnits_le unitsPerOne_pos (gridExponent_mul_unitsPerOne_dvd small)
      (Nat.mul_le_mul_left _ (Nat.le_of_lt belowOne))
  have finite := Nat.lt_of_le_of_lt bounded (mul_unitsPerOne_lt_unitBound small (by decide))
  refine ⟨nearestUnits_representable finite, ?_⟩
  rw [ofNat_eq small, finite_mul_finite]
  exact ofRatio_eq _ rfl (nearestUnits_representable finite)

/-- The whole part of a number times a factor below one is less than the number. -/
theorem floorWithin_mul_lt {number : Nat} {factor : Magnitude} (greatest : Nat)
    (positive : 0 < number) (small : number ≤ 2 ^ 53) (belowOne : factor.units < unitsPerOne) :
    (ofNat number * .finite false factor).floorWithin greatest < number := by
  have below : nearestUnits (number * unitsPerOne * factor.units) unitsPerOne
      < number * unitsPerOne :=
    nearestUnits_mul_lt positive gapBelowOne_pos unitsPerOne_eq
      (Magnitude.units_add_gapBelowOne_le belowOne)
  obtain ⟨_, product⟩ := exists_ofNat_mul_eq small belowOne
  rw [product, floorWithin_finite]
  refine Nat.lt_of_le_of_lt (Nat.min_le_right _ _) ?_
  exact (Nat.div_lt_iff_lt_mul unitsPerOne_pos).mpr below

end AdmissionControl.Binary64
