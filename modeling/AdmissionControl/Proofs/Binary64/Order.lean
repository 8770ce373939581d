import AdmissionControl.Proofs.Binary64.Rounding

/-!
# The numeric order

`atMost` is the order of latencies that includes equality. Like `lessThan` it is false whenever a
side is not a number, so the two are opposites on numbers only.
-/

namespace AdmissionControl.Binary64

/-- The numeric order with equality, false whenever a side is not a number. -/
def atMost (left right : Binary64) : Bool :=
  match left.rank, right.rank with
  | some leftRank, some rightRank => decide (leftRank ≤ rightRank)
  | _, _ => false

/-- A value is never above what it is at most. -/
theorem lessThan_eq_false_of_atMost {left right : Binary64} (ordered : left.atMost right = true) :
    right.lessThan left = false := by
  unfold atMost at ordered
  unfold lessThan
  cases leftRank : left.rank with
  | none => simp [leftRank] at ordered
  | some lower =>
      cases rightRank : right.rank with
      | none => simp [leftRank, rightRank] at ordered
      | some upper =>
          simp only [leftRank, rightRank, decide_eq_true_eq] at ordered
          simpa using ordered

/-- Finite values are numbers, and each is at most itself. -/
theorem atMost_finite_self (negative : Bool) (magnitude : Magnitude) :
    (finite negative magnitude).atMost (.finite negative magnitude) = true := by
  unfold atMost
  simp only [rank, decide_eq_true_eq]
  exact Int.le_refl _

theorem atMost_self {value : Binary64} (number : value ≠ .nan) : value.atMost value = true := by
  unfold atMost
  cases value with
  | nan => exact absurd rfl number
  | infinite negative => simp only [rank, Int.le_refl, decide_true]
  | finite negative magnitude => simp only [rank, Int.le_refl, decide_true]

/-- What lies below a value is at most that value. -/
theorem atMost_of_lessThan {left right : Binary64} (below : left.lessThan right = true) :
    left.atMost right = true := by
  unfold lessThan at below
  unfold atMost
  cases leftRank : left.rank <;> cases rightRank : right.rank <;> simp_all
  omega

theorem exists_rank {value : Binary64} (number : value ≠ .nan) :
    ∃ place : Int, value.rank = some place := by
  cases value with
  | nan => exact absurd rfl number
  | infinite negative => exact ⟨_, rfl⟩
  | finite negative magnitude => exact ⟨_, rfl⟩

/-- Of two numbers, the one that is not below the other is at least the other. -/
theorem atMost_of_lessThan_eq_false {left right : Binary64} (leftNumber : left ≠ .nan)
    (rightNumber : right ≠ .nan) (notBelow : right.lessThan left = false) :
    left.atMost right = true := by
  obtain ⟨leftPlace, leftRank⟩ := exists_rank leftNumber
  obtain ⟨rightPlace, rightRank⟩ := exists_rank rightNumber
  simp only [lessThan, rightRank, leftRank, decide_eq_false_iff_not] at notBelow
  simp only [atMost, leftRank, rightRank, decide_eq_true_eq]
  exact Int.not_lt.mp notBelow

/-- Infinity lies above every finite value that is not negative. -/
theorem finite_lessThan_infinite (magnitude : Magnitude) :
    (finite false magnitude).lessThan (.infinite false) = true := by
  have bounded := magnitude.representable.1
  unfold lessThan
  simp only [rank, Bool.false_eq_true, if_false, decide_eq_true_eq]
  exact Int.ofNat_lt.mpr bounded

end AdmissionControl.Binary64
