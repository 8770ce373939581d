import AdmissionControl.Proofs.Limiter.Steps
import Mathlib.Data.List.Induction

/-!
# The invariant of a limiter

`WithinBounds` holds of a fresh limiter, every use keeps it, and so it holds at every point of every
run. The limit can be cut below the number in flight, so that number is bounded by the ceiling and
not by the limit of the moment.
-/

namespace AdmissionControl

namespace Limiter

variable {tuning : Tuning} {state : Limiter}

/-- The limit lies between floor and ceiling, and no more are in flight than the ceiling allows. -/
structure WithinBounds (tuning : Tuning) (state : Limiter) : Prop where
  floor_le : tuning.floor.toNat ≤ state.limit.toNat
  le_ceiling : state.limit.toNat ≤ tuning.ceiling.toNat
  inflight_le : state.inflight.toNat ≤ tuning.ceiling.toNat

theorem fresh_withinBounds (tuning : Tuning) : WithinBounds tuning (fresh tuning) where
  floor_le := tuning.floor_le_ceiling
  le_ceiling := Nat.le_refl _
  inflight_le := Nat.zero_le _

theorem WithinBounds.one_le_limit (bounds : WithinBounds tuning state) : 1 ≤ state.limit.toNat :=
  Nat.le_trans tuning.one_le_floor bounds.floor_le

/-- A limit of one is a floor of one, which bounds the ceiling and with it the number in flight. -/
theorem WithinBounds.inflight_le_three (bounds : WithinBounds tuning state)
    (low : state.limit.toNat ≤ 1) : state.inflight.toNat ≤ 3 := by
  obtain ⟨floorLe, _, inflightLe⟩ := bounds
  rw [Tuning.toNat_floor] at floorLe
  omega

theorem WithinBounds.acquire (bounds : WithinBounds tuning state) :
    WithinBounds tuning state.acquire.state := by
  obtain ⟨floorLe, leCeiling, inflightLe⟩ := bounds
  refine ⟨by rwa [acquire_limit], by rwa [acquire_limit], ?_⟩
  rw [toNat_acquire_inflight]
  split <;> omega

theorem WithinBounds.release (bounds : WithinBounds tuning state) :
    WithinBounds tuning state.release := by
  refine ⟨bounds.floor_le, bounds.le_ceiling, ?_⟩
  have inflightLe := bounds.inflight_le
  rw [toNat_release_inflight]
  omega

/-- A cut keeps the limit at or below where it was, apart from the floor. -/
theorem WithinBounds.reduced_le (bounds : WithinBounds tuning state)
    (factor : Settings.isDecrease tuning.decrease) :
    (tuning.reduced state.limit).toNat ≤ state.limit.toNat := by
  by_cases aboveFloor : tuning.floor.toNat < state.limit.toNat
  · exact Nat.le_of_lt (Tuning.reduced_lt factor aboveFloor)
  · -- At the floor the product lies below the limit, and the floor is the limit.
    obtain ⟨magnitude, eq, belowOne⟩ := Settings.exists_of_isDecrease factor
    have limitBounded := state.limit.toNat_lt
    have product := Binary64.floorWithin_mul_lt (UInt32.size - 1) bounds.one_le_limit
      (by omega) belowOne
    rw [Tuning.toNat_reduced, eq]
    have floorLe := bounds.floor_le
    omega

theorem WithinBounds.complete (bounds : WithinBounds tuning state)
    (factor : Settings.isDecrease tuning.decrease) (latency : Binary64) (sampled : Bool) :
    WithinBounds tuning (state.complete tuning latency sampled) := by
  have released := bounds.release
  cases sampled with
  | false => exact released
  | true =>
      cases slow : tuning.target.lessThan latency with
      | true =>
          rw [complete_of_slow tuning state slow]
          exact ⟨Tuning.floor_le_reduced tuning state.limit,
            Nat.le_trans (bounds.reduced_le factor) bounds.le_ceiling, released.inflight_le⟩
      | false =>
          rw [complete_of_healthy tuning state slow]
          obtain ⟨floorLe, leCeiling, _⟩ := bounds
          refine ⟨?_, ?_, released.inflight_le⟩ <;> dsimp only <;> split
          · have floorLeCeiling := tuning.floor_le_ceiling
            rw [Tuning.toNat_raised]
            omega
          · exact floorLe
          · rw [Tuning.toNat_raised]
            exact Nat.min_le_left _ _
          · exact leCeiling

/-- Every use of a limiter keeps its bounds. -/
theorem WithinBounds.apply (bounds : WithinBounds tuning state)
    (factor : Settings.isDecrease tuning.decrease) (operation : Operation) :
    WithinBounds tuning (state.apply tuning operation) := by
  cases operation with
  | acquire => exact bounds.acquire
  | complete latency sampled => exact bounds.complete factor latency sampled
  | read => exact bounds

theorem run_append (tuning : Tuning) (state : Limiter) (first second : List Operation) :
    state.run tuning (first ++ second) = (state.run tuning first).run tuning second :=
  List.foldl_append

/-- Attempts in a row are a run of single attempts. -/
theorem acquireTimes_state (tuning : Tuning) (state : Limiter) (attempts : Nat) :
    (state.acquireTimes attempts).state
      = state.run tuning (List.replicate attempts .acquire) := by
  induction attempts with
  | zero => rw [acquireTimes_zero]; rfl
  | succ attempts inductionHypothesis =>
      rw [acquireTimes_succ, inductionHypothesis, List.replicate_succ', run_append]
      rfl

/-- Every sequence of uses keeps the bounds. -/
theorem WithinBounds.run (bounds : WithinBounds tuning state)
    (factor : Settings.isDecrease tuning.decrease) (operations : List Operation) :
    WithinBounds tuning (state.run tuning operations) := by
  induction operations generalizing state with
  | nil => exact bounds
  | cons operation rest inductionHypothesis =>
      exact inductionHypothesis (bounds.apply factor operation)

/-- The latency that a use shows to the limiter, if it shows one. -/
def Operation.sample? : Operation → Option Binary64
  | .complete latency true => some latency
  | _ => none

/-- The last latency that a run shows, if it shows one. -/
def lastSample? (operations : List Operation) : Option Binary64 :=
  (operations.filterMap Operation.sample?).getLast?

/-- Whether the last latency that a run shows is slow. A run that shows none is not. -/
def endsSlow (tuning : Tuning) (operations : List Operation) : Bool :=
  (lastSample? operations).any tuning.target.lessThan

theorem lastSample?_concat (operations : List Operation) (operation : Operation) :
    lastSample? (operations ++ [operation]) = operation.sample?.or (lastSample? operations) := by
  unfold lastSample?
  rw [List.filterMap_append]
  cases shown : operation.sample? with
  | none => simp [shown]
  | some latency => simp [shown]

theorem complete_degraded (tuning : Tuning) (state : Limiter) (latency : Binary64) :
    (state.complete tuning latency true).degraded = tuning.target.lessThan latency := by
  cases slow : tuning.target.lessThan latency with
  | true => rw [complete_of_slow tuning state slow]
  | false => rw [complete_of_healthy tuning state slow]

/-- A use that shows no latency leaves the verdict on the last one. -/
theorem apply_degraded_of_unsampled (tuning : Tuning) (state : Limiter) {operation : Operation}
    (unsampled : operation.sample? = none) :
    (state.apply tuning operation).degraded = state.degraded := by
  cases operation with
  | acquire => exact acquire_degraded state
  | read => rfl
  | complete latency sampled =>
      cases sampled with
      | false => rfl
      | true => cases unsampled

/-- The state remembers whether the last latency shown was slow. -/
theorem run_fresh_degraded (tuning : Tuning) (operations : List Operation) :
    ((fresh tuning).run tuning operations).degraded = endsSlow tuning operations := by
  induction operations using List.reverseRecOn with
  | nil => rfl
  | append_singleton operations operation inductionHypothesis =>
      rw [run_append, endsSlow, lastSample?_concat]
      change (apply tuning _ operation).degraded = _
      cases shown : operation.sample? with
      | none =>
          rw [apply_degraded_of_unsampled tuning _ shown, inductionHypothesis, Option.none_or]
          rfl
      | some latency =>
          have sampled : operation = .complete latency true := by
            unfold Operation.sample? at shown
            split at shown <;> simp_all
          rw [sampled, Option.some_or, Option.any_some]
          exact complete_degraded tuning _ latency

/-- At every point of every run: the limit lies between floor and ceiling and the number in flight
below the ceiling, a granted attempt leaves no more in flight than the limit, an attempt is rejected
exactly when the limit is in flight already and then changes nothing, and the state is degraded
exactly when the last sampled latency was past the target. -/
theorem run_fresh_invariant (tuning : Tuning) (factor : Settings.isDecrease tuning.decrease)
    (operations : List Operation) :
    let state := (fresh tuning).run tuning operations
    (tuning.floor ≤ state.limit ∧ state.limit ≤ tuning.ceiling)
      ∧ state.inflight ≤ tuning.ceiling
      ∧ (state.acquire.admitted = true →
          state.acquire.state.inflight ≤ state.acquire.state.limit)
      ∧ (state.acquire.admitted = false ↔ state.limit ≤ state.inflight)
      ∧ (state.acquire.admitted = false → state.acquire.state = state)
      ∧ state.degraded = endsSlow tuning operations := by
  intro state
  have bounds : WithinBounds tuning state := (fresh_withinBounds tuning).run factor operations
  have rejectedIff : state.acquire.admitted = false ↔ state.limit.toNat ≤ state.inflight.toNat := by
    rw [← Bool.not_eq_true, acquire_admitted_iff, Nat.not_lt]
  simp only [UInt32.le_iff_toNat_le]
  refine ⟨⟨bounds.floor_le, bounds.le_ceiling⟩, bounds.inflight_le, ?_, rejectedIff, ?_,
    run_fresh_degraded tuning operations⟩
  · intro admitted
    have room := (acquire_admitted_iff state).mp admitted
    rw [acquire_limit, toNat_acquire_inflight, if_pos room]
    exact room
  · intro rejected
    exact acquire_state_of_full state (rejectedIff.mp rejected)

/-- A limiter of four whose limit is cut below the four in flight, between two rejected attempts. -/
theorem run_fresh_invariant_cut_below_inflight :
    let tuning : Tuning := { initialLimit := 4, targetMilliseconds := 300 }
    let operations : List Operation :=
      [.acquire, .acquire, .acquire, .acquire, .acquire, .complete (.infinite false) true,
        .complete .nan false, .acquire, .complete (.infinite false) true, .acquire]
    let state := (fresh tuning).run tuning operations
    Settings.isDecrease tuning.decrease = true
      ∧ state = ⟨2, 2, true⟩
      ∧ (tuning.floor ≤ state.limit ∧ state.limit ≤ tuning.ceiling)
      ∧ state.inflight ≤ tuning.ceiling
      ∧ (state.acquire.admitted = true →
          state.acquire.state.inflight ≤ state.acquire.state.limit)
      ∧ (state.acquire.admitted = false ↔ state.limit ≤ state.inflight)
      ∧ (state.acquire.admitted = false → state.acquire.state = state)
      ∧ state.degraded = endsSlow tuning operations :=
  ⟨by decide +kernel, by decide +kernel, run_fresh_invariant _ (by decide +kernel) _⟩

end Limiter

end AdmissionControl
