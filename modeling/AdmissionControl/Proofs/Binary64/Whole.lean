import AdmissionControl.Proofs.Binary64.Rounding
import AdmissionControl.Wire.Request

/-!
# Whole numbers that cross the wire

A value is sent as the nearest whole number of a 64-bit word and read back as the value nearest to
that number. Values past 53 bits are whole already, and the greatest word reads back as `2 ^ 64`. So
what arrives is exactly the value rounded to a whole number, a half going away from zero, between
zero and `2 ^ 64`.
-/

namespace AdmissionControl.Binary64

/-- The whole number nearest to a count of units, a half going up. -/
def nearestWhole (units : Nat) : Nat := (units + unitsPerOne / 2) / unitsPerOne

/-- The whole number that a value stands for on the wire: the nearest one, a half going away from
zero, but zero for what is negative or no number, and `2 ^ 64` at most. -/
def whole : Binary64 → Nat
  | .nan => 0
  | .infinite negative => if negative then 0 else 2 ^ 64
  | .finite negative magnitude =>
      if negative then 0 else min (2 ^ 64) (nearestWhole magnitude.units)

/-- Half of a positive divisor does not carry over. -/
theorem mul_add_half_div {divisor : Nat} (positive : 0 < divisor) (number : Nat) :
    (number * divisor + divisor / 2) / divisor = number := by
  have half : divisor / 2 < divisor := Nat.div_lt_self positive Nat.one_lt_two
  rw [Nat.mul_comm, Nat.mul_add_div positive, Nat.div_eq_of_lt half, Nat.add_zero]

/-- A whole number is nearest to itself. The count of units is a variable here, so that nothing
computes it. -/
theorem nearestWhole_of_eq {units number : Nat} (eq : units = number * unitsPerOne) :
    nearestWhole units = number := by
  rw [nearestWhole, eq, mul_add_half_div unitsPerOne_pos]

theorem whole_le (value : Binary64) : value.whole ≤ 2 ^ 64 := by
  cases value with
  | nan => exact Nat.zero_le _
  | infinite negative =>
      rw [whole]
      split
      · exact Nat.zero_le _
      · exact Nat.le_refl _
  | finite negative magnitude =>
      rw [whole]
      split
      · exact Nat.zero_le _
      · exact Nat.min_le_left _ _

/-- Past 53 bits every magnitude is a whole number. -/
theorem Magnitude.nearestWhole_mul {magnitude : Magnitude}
    (large : 2 ^ 53 < nearestWhole magnitude.units) :
    nearestWhole magnitude.units * unitsPerOne = magnitude.units := by
  have halfBelow : unitsPerOne / 2 < unitsPerOne :=
    Nat.div_lt_self unitsPerOne_pos Nat.one_lt_two
  have atLeast : 2 ^ (53 + fractionBits) ≤ magnitude.units := by
    have reached := (Nat.le_div_iff_mul_le unitsPerOne_pos).mp large
    rw [Nat.succ_mul, two_pow_mul_unitsPerOne] at reached
    omega
  have wide : fractionBits ≤ gridExponent magnitude.units := by
    have nonzero : magnitude.units ≠ 0 :=
      Nat.ne_of_gt (Nat.lt_of_lt_of_le (Nat.two_pow_pos _) atLeast)
    have bits := (Nat.le_log2 nonzero).mpr atLeast
    unfold gridExponent
    omega
  obtain ⟨count, eq⟩ : unitsPerOne ∣ magnitude.units :=
    Nat.dvd_trans (Nat.pow_dvd_pow 2 wide) magnitude.representable.2
  have turned : magnitude.units = count * unitsPerOne := by rw [eq, Nat.mul_comm]
  rw [nearestWhole_of_eq turned, turned]

/-- Rounding a magnitude to a whole number is exact. -/
theorem Magnitude.representable_nearestWhole (magnitude : Magnitude) :
    Representable (nearestWhole magnitude.units * unitsPerOne) := by
  rcases Nat.lt_or_ge (2 ^ 53) (nearestWhole magnitude.units) with large | small
  · rw [nearestWhole_mul large]
    exact magnitude.representable
  · exact representable_mul_unitsPerOne small

theorem representable_wordSize : Representable (2 ^ 64 * unitsPerOne) := by
  refine ⟨mul_unitsPerOne_lt_unitBound (Nat.le_refl _) (by decide), ?_⟩
  rw [two_pow_mul_unitsPerOne, ← Nat.one_mul (2 ^ (64 + fractionBits))]
  exact gridExponent_dvd (by decide)

theorem representable_whole (value : Binary64) : Representable (value.whole * unitsPerOne) := by
  have ofZero {value : Binary64} (zero : value.whole = 0) :
      Representable (value.whole * unitsPerOne) := by
    rw [zero]
    exact representable_mul_unitsPerOne (Nat.zero_le _)
  cases value with
  | nan => exact ofZero rfl
  | infinite negative =>
      cases negative with
      | true => exact ofZero rfl
      | false =>
          have wordSize : (infinite false).whole = 2 ^ 64 := rfl
          rw [wordSize]
          exact representable_wordSize
  | finite negative magnitude =>
      cases negative with
      | true => exact ofZero rfl
      | false =>
          rw [whole, if_neg Bool.false_ne_true]
          rcases Nat.le_total (2 ^ 64) (nearestWhole magnitude.units) with beyond | within
          · rw [Nat.min_eq_left beyond]
            exact representable_wordSize
          · rw [Nat.min_eq_right within]
            exact magnitude.representable_nearestWhole

/-- What arrives of a value: the whole number that it stands for, exactly. -/
def carried (value : Binary64) : Binary64 :=
  .finite false ⟨value.whole * unitsPerOne, value.representable_whole⟩

theorem carried_of_whole {value : Binary64} {number : Nat} (eq : value.whole = number)
    (representable : Representable (number * unitsPerOne)) :
    value.carried = .finite false ⟨number * unitsPerOne, representable⟩ := by
  subst eq
  rfl

/-- A representable whole number is exact. -/
theorem ofNat_of_representable {number : Nat}
    (representable : Representable (number * unitsPerOne)) :
    ofNat number = .finite false ⟨number * unitsPerOne, representable⟩ := by
  refine ofRatio_eq false ?_ _
  have exact := nearestUnits_mul Nat.one_pos representable.2
  rwa [Nat.mul_one] at exact

/-- The greatest word is nearest to the number after it. -/
theorem ofNat_greatestLatency :
    ofNat Wire.Request.greatestLatency
      = .finite false ⟨2 ^ 64 * unitsPerOne, representable_wordSize⟩ := by
  refine ofRatio_eq false ?_ _
  decide +kernel

theorem roundWithin_finite (greatest : Nat) (magnitude : Magnitude) :
    (finite false magnitude).roundWithin greatest = min greatest (nearestWhole magnitude.units) := by
  have rounded : (finite false magnitude).round
      = .finite false ⟨_, magnitude.representable_nearestWhole⟩ :=
    ofNat_of_representable magnitude.representable_nearestWhole
  rw [roundWithin, rounded, floorWithin_finite, Nat.mul_div_cancel _ unitsPerOne_pos]

theorem roundWithin_negative (greatest : Nat) (magnitude : Magnitude) :
    (finite true magnitude).roundWithin greatest = 0 := by
  rw [roundWithin, round, ofRatio]
  split <;> rfl

/-- A value that is written as a word and read back has become the whole number it stands for. -/
theorem ofNat_roundWithin (value : Binary64) :
    ofNat (value.roundWithin Wire.Request.greatestLatency) = value.carried := by
  have arrives {number : Nat} (eq : number = value.whole) : ofNat number = value.carried := by
    subst eq
    exact ofNat_of_representable value.representable_whole
  cases value with
  | nan => exact arrives rfl
  | infinite negative =>
      cases negative with
      | true => exact arrives rfl
      | false =>
          have saturated : (infinite false).whole = 2 ^ 64 := rfl
          exact ofNat_greatestLatency.trans (carried_of_whole saturated representable_wordSize).symm
  | finite negative magnitude =>
      cases negative with
      | true => exact arrives (roundWithin_negative _ magnitude)
      | false =>
          rw [roundWithin_finite]
          rcases Nat.lt_or_ge (nearestWhole magnitude.units) (2 ^ 64) with within | beyond
          · have fits : nearestWhole magnitude.units ≤ Wire.Request.greatestLatency :=
              Nat.le_sub_one_of_lt within
            refine arrives ?_
            rw [whole, if_neg Bool.false_ne_true, Nat.min_eq_right fits,
              Nat.min_eq_right (Nat.le_of_lt within)]
          · have saturated : (finite false magnitude).whole = 2 ^ 64 := by
              rw [whole, if_neg Bool.false_ne_true, Nat.min_eq_left beyond]
            rw [Nat.min_eq_left (Nat.le_trans (by decide) beyond), ofNat_greatestLatency,
              carried_of_whole saturated representable_wordSize]

/-- What a value is written as: the whole number that it stands for, or the greatest word. -/
theorem roundWithin_greatestLatency (value : Binary64) :
    value.roundWithin Wire.Request.greatestLatency
      = min Wire.Request.greatestLatency value.whole := by
  have word : Wire.Request.greatestLatency ≤ 2 ^ 64 := by decide
  cases value with
  | nan => rfl
  | infinite negative =>
      cases negative with
      | true => rfl
      | false => exact (Nat.min_eq_left word).symm
  | finite negative magnitude =>
      cases negative with
      | true => exact roundWithin_negative _ magnitude
      | false =>
          rw [roundWithin_finite, whole, if_neg Bool.false_ne_true, ← Nat.min_assoc,
            Nat.min_eq_left word]

section Exact

/-- The value is a whole number from zero to `2 ^ 64`. Zero may have either sign. -/
def IsWhole (value : Binary64) : Prop :=
  ∃ number : Nat, number ≤ 2 ^ 64 ∧ value.rank = some ((number * unitsPerOne : Nat) : Int)

variable {value : Binary64}

theorem rank_carried (value : Binary64) :
    value.carried.rank = some ((value.whole * unitsPerOne : Nat) : Int) := rfl

/-- A whole number stands for itself. -/
theorem whole_of_rank {number : Nat} (bounded : number ≤ 2 ^ 64)
    (eq : value.rank = some ((number * unitsPerOne : Nat) : Int)) : value.whole = number := by
  have below : number * unitsPerOne < unitBound :=
    mul_unitsPerOne_lt_unitBound bounded (by decide)
  cases value with
  | nan => cases eq
  | infinite negative =>
      -- An infinity lies past every whole number in the range.
      have past := Option.some.inj eq
      cases negative <;> simp only [if_true, Bool.false_eq_true, if_false] at past <;> omega
  | finite negative magnitude =>
      have units := Option.some.inj eq
      cases negative with
      | false =>
          simp only [Bool.false_eq_true, if_false, Int.natCast_inj] at units
          rw [whole, if_neg Bool.false_ne_true, nearestWhole_of_eq units,
            Nat.min_eq_right bounded]
      | true =>
          -- Of the values with a minus sign only zero is not below it.
          simp only [if_true] at units
          have none : number * unitsPerOne = 0 := by omega
          rcases Nat.mul_eq_zero.mp none with zero | zero
          · exact zero.symm
          · exact absurd zero (Nat.ne_of_gt unitsPerOne_pos)

/-- A whole number arrives as the same number. -/
theorem IsWhole.rank_carried (isWhole : value.IsWhole) : value.carried.rank = value.rank := by
  obtain ⟨number, bounded, eq⟩ := isWhole
  rw [Binary64.rank_carried, whole_of_rank bounded eq, eq]

/-- Only zero has two values of one number. -/
theorem eq_or_eq_negative_zero_of_rank {magnitude : Magnitude}
    (eq : value.rank = (finite false magnitude).rank) :
    value = .finite false magnitude ∨ value = .finite true .zero := by
  have bounded := magnitude.representable.1
  cases value with
  | nan => cases eq
  | infinite negative =>
      have past := Option.some.inj eq
      cases negative <;> simp only [if_true, Bool.false_eq_true, if_false] at past <;> omega
  | finite negative other =>
      obtain ⟨units, representable⟩ := magnitude
      obtain ⟨otherUnits, otherRepresentable⟩ := other
      have same := Option.some.inj eq
      cases negative with
      | false =>
          simp only [Bool.false_eq_true, if_false, Int.natCast_inj] at same
          subst same
          exact .inl rfl
      | true =>
          simp only [if_true, Bool.false_eq_true, if_false] at same
          obtain rfl : otherUnits = 0 := by omega
          exact .inr rfl

/-- The values that arrive unchanged are the whole numbers without a minus sign. -/
theorem carried_eq_iff : value.carried = value ↔ value.IsWhole ∧ value ≠ .finite true .zero := by
  constructor
  · intro unchanged
    refine ⟨⟨value.whole, value.whole_le, ?_⟩, ?_⟩
    · rw [← rank_carried, unchanged]
    · rintro rfl
      cases unchanged
  · rintro ⟨isWhole, signed⟩
    rcases eq_or_eq_negative_zero_of_rank isWhole.rank_carried.symm with same | zero
    · exact same.symm
    · exact absurd zero signed

/-- What arrived is written as it was before. -/
theorem roundWithin_carried (value : Binary64) :
    value.carried.roundWithin Wire.Request.greatestLatency
      = value.roundWithin Wire.Request.greatestLatency := by
  rw [roundWithin_greatestLatency, roundWithin_greatestLatency,
    whole_of_rank value.whole_le value.rank_carried]

end Exact

end AdmissionControl.Binary64
