import AdmissionControl.Binary64.Bits
import AdmissionControl.Binary64.Decimal
import AdmissionControl.Proofs.Binary64.WholePart
import AdmissionControl.Proofs.Limiter.BackOff
import Mathlib.Order.Iterate
import Mathlib.Order.MinMax

/-!
# Nine tenths in whole numbers

Nine tenths are no binary64 value. The nearest one lies above them, and so little that no limit shows
it: the rounded product, rounded down, is the whole part of nine tenths of the limit. So a limiter
with the usual factor backs off in whole numbers, and where a run without a healthy sample leaves the
limit depends only on how many slow samples it shows.
-/

namespace AdmissionControl

namespace Limiter

example : usualDecrease.toBits = 0x3feccccccccccccd := by decide +kernel

example : Binary64.read? "0.9".toList = some usualDecrease := by decide +kernel

/-- The usual factor lies above nine tenths by a fifth of the distance from one to the value before
it. -/
theorem exists_usualDecrease_eq :
    ∃ magnitude : Binary64.Magnitude, usualDecrease = .finite false magnitude
      ∧ 10 * magnitude.units = 9 * Binary64.unitsPerOne + 2 * Binary64.gapBelowOne := by
  have bounded : Binary64.nearestUnits (9 * Binary64.unitsPerOne) 10 < Binary64.unitBound := by
    decide +kernel
  have above : 10 * Binary64.nearestUnits (9 * Binary64.unitsPerOne) 10
      = 9 * Binary64.unitsPerOne + 2 * Binary64.gapBelowOne := by decide +kernel
  refine ⟨⟨_, Binary64.nearestUnits_representable bounded⟩, ?_, above⟩
  rw [usualDecrease]
  exact Binary64.ofRatio_eq false rfl _

/-- The usual factor takes the whole part of nine tenths, also of numbers of more than 32 bits. -/
theorem floorWithin_mul_usualDecrease {number : Nat} (greatest : Nat) (small : number ≤ 2 ^ 48) :
    (Binary64.ofNat number * usualDecrease).floorWithin greatest
      = min greatest (9 * number / 10) := by
  obtain ⟨magnitude, eq, above⟩ := exists_usualDecrease_eq
  have inGaps := Binary64.unitsPerOne_eq
  have gapPositive := Binary64.gapBelowOne_pos
  -- Sixteenths are fine enough: a tenth, which the product is short of the next number, is more.
  have fine : 4 ≤ Binary64.fractionBits := by decide
  have inParts := Binary64.unitsPerOne_eq_mul_part fine
  have excess : number * (2 * Binary64.gapBelowOne) ≤ 2 ^ 48 * (2 * Binary64.gapBelowOne) :=
    Nat.mul_le_mul_right _ small
  rw [eq]
  exact Binary64.floorWithin_mul_fraction greatest fine (by omega) (by omega) (by decide) above
    (by omega)

/-- The whole part of nine tenths of a number. -/
def nineTenths (number : Nat) : Nat := 9 * number / 10

theorem nineTenths_mono : Monotone nineTenths :=
  fun _ _ ordered => Nat.div_le_div_right (Nat.mul_le_mul_left 9 ordered)

theorem nineTenths_le (number : Nat) : nineTenths number ≤ number := by
  unfold nineTenths
  omega

/-- Whether a floor stops every step or only the last one makes no difference. -/
theorem max_iterate_nineTenths (floor number count : Nat) :
    max floor (nineTenths^[count] (max floor number))
      = max floor (nineTenths^[count] number) := by
  have split : nineTenths^[count] (max floor number)
      = max (nineTenths^[count] floor) (nineTenths^[count] number) :=
    Monotone.map_max (nineTenths_mono.iterate count)
  have notAbove : nineTenths^[count] floor ≤ floor :=
    nineTenths_mono.antitone_iterate_of_map_le (nineTenths_le floor) (Nat.zero_le count)
  rw [split, ← max_assoc, max_eq_left notAbove]

variable {tuning : Tuning} {state : Limiter} (usual : tuning.decrease = usualDecrease)

include usual

theorem Tuning.isDecrease_of_usual : Settings.isDecrease tuning.decrease = true := by
  rw [usual]
  decide +kernel

/-- A slow sample leaves the floor or nine tenths of the limit, whichever is greater. -/
theorem Tuning.toNat_reduced_usual (limit : UInt32) :
    (tuning.reduced limit).toNat = max tuning.floor.toNat (nineTenths limit.toNat) := by
  have bounded := limit.toNat_lt
  have size : UInt32.size = 2 ^ 32 := rfl
  have within : nineTenths limit.toNat ≤ UInt32.size - 1 :=
    Nat.le_trans (nineTenths_le _) (by omega)
  rw [toNat_reduced, usual, floorWithin_mul_usualDecrease _ (by omega)]
  exact congrArg (max _) (Nat.min_eq_right within)

/-- One use without a healthy sample: a slow sample leaves nine tenths of the limit, unless the floor
stops it, and every other such use leaves the limit itself. -/
theorem WithinBounds.apply_limit_eq (bounds : WithinBounds tuning state) {operation : Operation}
    (neverHealthy : operation.NeverHealthy tuning) :
    (state.apply tuning operation).limit.toNat
      = max tuning.floor.toNat
          (nineTenths^[(operation.isSlow tuning).toNat] state.limit.toNat) := by
  have unchanged : state.limit.toNat = max tuning.floor.toNat (nineTenths^[0] state.limit.toNat) :=
    (Nat.max_eq_right bounds.floor_le).symm
  cases operation with
  | read => exact unchanged
  | acquire => rwa [Limiter.apply, acquire_limit]
  | complete latency sampled =>
      cases sampled with
      | false => exact unchanged
      | true =>
          have slow := neverHealthy latency rfl
          rw [Limiter.apply, complete_limit_of_slow tuning state slow, Operation.isSlow_sampled,
            slow, Tuning.toNat_reduced_usual usual]
          rfl

/-- A run without a healthy sample takes nine tenths of the limit as often as it shows a slow one,
unless the floor stops it. -/
theorem WithinBounds.run_limit_eq_iterate (bounds : WithinBounds tuning state)
    {operations : List Operation}
    (neverHealthy : ∀ operation ∈ operations, operation.NeverHealthy tuning) :
    (state.run tuning operations).limit.toNat
      = max tuning.floor.toNat
          (nineTenths^[slowSamples tuning operations] state.limit.toNat) := by
  induction operations generalizing state with
  | nil => exact (Nat.max_eq_right bounds.floor_le).symm
  | cons operation rest inductionHypothesis =>
      obtain ⟨first, later⟩ := List.forall_mem_cons.mp neverHealthy
      have afterFirst := bounds.apply (Tuning.isDecrease_of_usual usual) operation
      rw [run_cons, inductionHypothesis afterFirst later, bounds.apply_limit_eq usual first,
        max_iterate_nineTenths, slowSamples_cons, Function.iterate_add_apply]

omit usual

/-- Back-off with the usual factor is exact. Of every limit that a word holds, the rounded product
rounded down is the whole part of nine tenths. So at every point of every run, whatever the ceiling,
the target and the step, a slow sample sets the limit to nine tenths of it, or to the floor where that
is greater, and a run without a healthy sample does the same once for each slow sample. -/
theorem slow_sample_leaves_nine_tenths (initialLimit : UInt32) (targetMilliseconds : UInt64)
    (step : UInt32) :
    let tuning : Tuning := { initialLimit, targetMilliseconds, step }
    (∀ limit : UInt32,
      (Binary64.ofNat limit.toNat * usualDecrease).floorWithin (UInt32.size - 1)
        = 9 * limit.toNat / 10)
    ∧ ∀ history : List Operation,
        let state := (fresh tuning).run tuning history
        (∀ latency : Binary64, tuning.target.lessThan latency = true →
          (state.complete tuning latency true).limit.toNat
            = max tuning.floor.toNat (9 * state.limit.toNat / 10))
        ∧ ∀ operations : List Operation,
            (∀ operation ∈ operations, operation.NeverHealthy tuning) →
            (state.run tuning operations).limit.toNat
              = max tuning.floor.toNat
                  (nineTenths^[slowSamples tuning operations] state.limit.toNat) := by
  intro tuning
  have usual : tuning.decrease = usualDecrease := by simp only [tuning]
  refine ⟨fun limit => ?_, fun history => ?_⟩
  · have bounded := limit.toNat_lt
    have size : UInt32.size = 2 ^ 32 := rfl
    rw [floorWithin_mul_usualDecrease _ (by omega)]
    omega
  · intro state
    refine ⟨fun latency slow => ?_, fun operations neverHealthy => ?_⟩
    · rw [complete_limit_of_slow tuning state slow, Tuning.toNat_reduced_usual usual, nineTenths]
    · have bounds : WithinBounds tuning state :=
        (fresh_withinBounds tuning).run (Tuning.isDecrease_of_usual usual) history
      exact bounds.run_limit_eq_iterate usual neverHealthy

/-- From the greatest multiple of ten in a word one slow sample takes exactly a tenth; two more round
down. -/
theorem slow_sample_leaves_nine_tenths_of_multiple :
    let tuning : Tuning := { initialLimit := 4294967290, targetMilliseconds := 300 }
    let slow : Operation := .complete (.infinite false) true
    let state := (fresh tuning).run tuning [.acquire, slow]
    let operations : List Operation := [slow, .read, slow]
    tuning.target.lessThan (.infinite false) = true
      ∧ (∀ operation ∈ operations, operation.NeverHealthy tuning)
      ∧ state.limit.toNat = 3865470561
      ∧ (state.complete tuning (.infinite false) true).limit.toNat = 3478923504
      ∧ (state.run tuning operations).limit.toNat = 3131031153 := by
  intro tuning slow state operations
  have isSlow : tuning.target.lessThan (.infinite false) = true := tuning.target_lessThan_infinite
  have neverHealthy : ∀ operation ∈ operations, operation.NeverHealthy tuning := by
    have ofSlow : slow.NeverHealthy tuning := Operation.neverHealthy_of_slow isSlow
    simp only [operations, List.forall_mem_cons]
    exact ⟨ofSlow, Operation.neverHealthy_of_unsampled rfl, ofSlow, List.forall_mem_nil _⟩
  have floorEq : tuning.floor.toNat = 2147483645 := by decide +kernel
  have samples : slowSamples tuning operations = 2 := by decide +kernel
  have reached : state.limit.toNat = 3865470561 := by decide +kernel
  obtain ⟨next, later⟩ := (slow_sample_leaves_nine_tenths 4294967290 300 1).2 [.acquire, slow]
  have afterNext : (state.complete tuning (.infinite false) true).limit.toNat
      = max tuning.floor.toNat (9 * state.limit.toNat / 10) := next _ isSlow
  have afterBoth : (state.run tuning operations).limit.toNat
      = max tuning.floor.toNat (nineTenths^[slowSamples tuning operations] state.limit.toNat) :=
    later operations neverHealthy
  rw [floorEq, reached] at afterNext
  rw [floorEq, samples, reached] at afterBoth
  exact ⟨isSlow, neverHealthy, reached, afterNext, afterBoth⟩

end Limiter

end AdmissionControl
