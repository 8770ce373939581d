import AdmissionControl.Power

/-!
# Binary64 values

A finite binary64 number is a whole count of units of `2 ^ -1074`, and that count has at most
53 significant bits. Holding the count itself makes comparison a comparison of natural numbers
and makes every operation one exact ratio followed by `Binary64.ofRatio`, which rounds to the
nearest representable count and resolves a tie toward the even significand.
-/

namespace AdmissionControl

namespace Binary64

/-- The bits of a magnitude below one. -/
def fractionBits : Nat := 1074

/-- The bits of a magnitude; every finite one lies below `2 ^ 1024`. -/
def totalBits : Nat := 2098

/-- The number of units in one. -/
def unitsPerOne : Nat := 2 ^ fractionBits

/-- The least count of units past every finite magnitude. -/
def unitBound : Nat := 2 ^ totalBits

/-- The exponent of the spacing between neighbouring magnitudes around `units`. -/
def gridExponent (units : Nat) : Nat := units.log2 - 52

/-- A count of units is a binary64 magnitude when it lies on the grid of its own binade. -/
def Representable (units : Nat) : Prop :=
  units < unitBound ∧ 2 ^ gridExponent units ∣ units

/-- The whole number nearest to a ratio; a tie goes to the even neighbour. -/
def roundHalfEven (numerator denominator : Nat) : Nat :=
  let quotient := numerator / denominator
  let remainder := numerator % denominator
  if 2 * remainder < denominator ∨ (2 * remainder = denominator ∧ quotient % 2 = 0) then
    quotient
  else
    quotient + 1

theorem roundHalfEven_le (numerator denominator : Nat) :
    roundHalfEven numerator denominator ≤ numerator / denominator + 1 := by
  unfold roundHalfEven
  dsimp only
  split <;> omega

/-- The unbounded count of units nearest to a ratio on the grid of its binade. -/
def nearestUnits (numerator denominator : Nat) : Nat :=
  let grid := 2 ^ gridExponent (numerator / denominator)
  roundHalfEven numerator (denominator * grid) * grid

theorem nearestUnits_significand_le (numerator denominator : Nat) :
    roundHalfEven numerator
      (denominator * 2 ^ gridExponent (numerator / denominator)) ≤ 2 ^ 53 := by
  have rounded := roundHalfEven_le numerator
    (denominator * 2 ^ gridExponent (numerator / denominator))
  rw [← Nat.div_div_eq_div_mul] at rounded
  have below : numerator / denominator / 2 ^ gridExponent (numerator / denominator) < 2 ^ 53 := by
    rw [Nat.div_lt_iff_lt_mul (Nat.two_pow_pos _), ← Nat.pow_add]
    refine Nat.lt_of_lt_of_le Nat.lt_log2_self (Nat.pow_le_pow_right (by decide) ?_)
    unfold gridExponent
    omega
  omega

/-- A significand of at most 53 bits, or `2 ^ 53` itself, lies on its own grid. -/
theorem gridExponent_dvd {significand exponent : Nat} (bounded : significand ≤ 2 ^ 53) :
    2 ^ gridExponent (significand * 2 ^ exponent) ∣ significand * 2 ^ exponent := by
  by_cases zero : significand = 0
  · simp [zero]
  by_cases carry : significand = 2 ^ 53
  · rw [carry, ← Nat.pow_add]
    refine Nat.pow_dvd_pow 2 ?_
    unfold gridExponent
    rw [Nat.log2_two_pow]
    omega
  · have nonzero : significand * 2 ^ exponent ≠ 0 :=
      Nat.mul_ne_zero zero (Nat.ne_of_gt (Nat.two_pow_pos _))
    have small : significand * 2 ^ exponent < 2 ^ (53 + exponent) := by
      rw [Nat.pow_add]
      exact Nat.mul_lt_mul_of_pos_right (by omega) (Nat.two_pow_pos _)
    have bits := (Nat.log2_lt nonzero).mpr small
    refine Nat.dvd_trans (Nat.pow_dvd_pow 2 (n := exponent) ?_) (Nat.dvd_mul_left _ _)
    unfold gridExponent
    omega

theorem nearestUnits_representable {numerator denominator : Nat}
    (bounded : nearestUnits numerator denominator < unitBound) :
    Representable (nearestUnits numerator denominator) :=
  ⟨bounded, gridExponent_dvd (nearestUnits_significand_le numerator denominator)⟩

/-- A finite magnitude: a count of units that binary64 can hold. -/
structure Magnitude where
  units : Nat
  representable : Representable units
deriving DecidableEq

theorem unitBound_pos : 0 < unitBound := Nat.two_pow_pos totalBits

/-- The magnitude of zero. -/
def Magnitude.zero : Magnitude := ⟨0, unitBound_pos, Nat.dvd_zero _⟩

end Binary64

/-- A binary64 value. Zero keeps its sign; every not-a-number is the same value. -/
inductive Binary64 where
  | nan
  | infinite (negative : Bool)
  | finite (negative : Bool) (magnitude : Binary64.Magnitude)
deriving DecidableEq

namespace Binary64

/-- The value nearest to `numerator / denominator` units; a value past the largest finite one is
infinite. -/
def ofRatio (negative : Bool) (numerator denominator : Nat) : Binary64 :=
  if bounded : nearestUnits numerator denominator < unitBound then
    .finite negative ⟨nearestUnits numerator denominator, nearestUnits_representable bounded⟩
  else
    .infinite negative

/-- The value nearest to a whole number. -/
def ofNat (number : Nat) : Binary64 := ofRatio false (number * unitsPerOne) 1

/-- Positive zero. -/
def zero : Binary64 := .finite false .zero

instance : Inhabited Binary64 := ⟨zero⟩

/-- Place on the extended number line in units; the infinities lie just past the finite values. -/
def rank : Binary64 → Option Int
  | .nan => none
  | .infinite negative => some (if negative then -(unitBound : Int) else unitBound)
  | .finite negative magnitude =>
      some (if negative then -(magnitude.units : Int) else magnitude.units)

/-- The numeric order, false whenever a side is not a number. -/
def lessThan (left right : Binary64) : Bool :=
  match left.rank, right.rank with
  | some leftRank, some rightRank => decide (leftRank < rightRank)
  | _, _ => false

/-- Neither infinite nor a not-a-number. -/
def isFinite : Binary64 → Bool
  | .finite _ _ => true
  | _ => false

end Binary64

end AdmissionControl
