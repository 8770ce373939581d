import AdmissionControl.Proofs.Binary64.Monotone
import AdmissionControl.Proofs.Limiter.Recovery
import Mathlib.Data.List.Forall2

/-!
# Two runs side by side

Two runs of one limiter make the same uses, and no completion is slower in the first run than in the
second. A single use can go either way: the second run may grant an attempt that the first rejects,
because more are in flight there, and its limit may rise where the other does not. What both keep is
`IsAhead`, which bounds how far the numbers in flight are apart by how far the numbers of granted
attempts are. With steps of one the limits never cross, as long as the doubled number in flight stays
within its word.
-/

namespace AdmissionControl

namespace Limiter

/-- Two uses that differ at most in the latency of a completion, which is a number and in the first
at most what it is in the second. -/
inductive Operation.NoSlower : Operation → Operation → Prop
  | acquire : NoSlower .acquire .acquire
  | complete {fast slow : Binary64} (sampled : Bool) (ordered : fast.atMost slow = true) :
      NoSlower (.complete fast sampled) (.complete slow sampled)
  | read : NoSlower .read .read

/-- Whether a use is an attempt that is granted, as a number. -/
def grants (state : Limiter) : Operation → Nat
  | .acquire => state.acquire.admitted.toNat
  | _ => 0

/-- How many attempts a run grants. -/
def granted (tuning : Tuning) (state : Limiter) : List Operation → Nat
  | [] => 0
  | operation :: rest =>
      state.grants operation + granted tuning (state.apply tuning operation) rest

/-- The first limiter is ahead of the second: its limit and its number in flight are at least those
of the second, and it has granted more attempts by at least as much as it has more in flight. -/
structure IsAhead (fast slow : Limiter) (fastGranted slowGranted : Nat) : Prop where
  limit_le : slow.limit.toNat ≤ fast.limit.toNat
  inflight_le : slow.inflight.toNat ≤ fast.inflight.toNat
  granted_le : fast.inflight.toNat + slowGranted ≤ slow.inflight.toNat + fastGranted

variable {tuning : Tuning} {fast slow : Limiter} {fastGranted slowGranted : Nat}

/-- The order of latencies decides alike for both runs, or for the slower one alone. -/
theorem lessThan_of_atMost {bound left right : Binary64} (ordered : left.atMost right = true)
    (late : bound.lessThan left = true) : bound.lessThan right = true := by
  unfold Binary64.atMost at ordered
  unfold Binary64.lessThan at late ⊢
  cases boundRank : bound.rank <;> cases leftRank : left.rank <;> cases rightRank : right.rank <;>
    simp_all
  omega

/-- A cut leaves a higher limit the higher one. -/
theorem Tuning.reduced_mono (factor : Settings.isDecrease tuning.decrease) {lower higher : UInt32}
    (ordered : lower.toNat ≤ higher.toNat) :
    (tuning.reduced lower).toNat ≤ (tuning.reduced higher).toNat := by
  obtain ⟨magnitude, eq, belowOne⟩ := Settings.exists_of_isDecrease factor
  have bounded := higher.toNat_lt
  have products := Binary64.floorWithin_mul_mono (UInt32.size - 1) ordered (by omega) belowOne
  rw [toNat_reduced, toNat_reduced, eq]
  omega

namespace IsAhead

/-- One attempt in both. If the second alone is granted, the first has more in flight by at least
one. -/
theorem acquire (ahead : IsAhead fast slow fastGranted slowGranted) :
    IsAhead fast.acquire.state slow.acquire.state
      (fastGranted + fast.acquire.admitted.toNat)
      (slowGranted + slow.acquire.admitted.toNat) := by
  obtain ⟨limitLe, inflightLe, grantedLe⟩ := ahead
  have ofFast := toNat_acquire_inflight_eq fast
  have ofSlow := toNat_acquire_inflight_eq slow
  have inFast := toNat_acquire_inflight fast
  have inSlow := toNat_acquire_inflight slow
  refine ⟨by rwa [acquire_limit, acquire_limit], ?_, by omega⟩
  split at inFast <;> split at inSlow <;> omega

/-- One completion in both brings the numbers in flight no farther apart. -/
theorem release (ahead : IsAhead fast slow fastGranted slowGranted) :
    IsAhead fast.release slow.release fastGranted slowGranted := by
  obtain ⟨limitLe, inflightLe, grantedLe⟩ := ahead
  refine ⟨limitLe, ?_, ?_⟩ <;> rw [toNat_release_inflight, toNat_release_inflight] <;> omega

/-- A completion changes the limit and the flag only, after the slot is given back. -/
theorem complete_of_limit_le (ahead : IsAhead fast slow fastGranted slowGranted)
    {fastLatency slowLatency : Binary64} {sampled : Bool}
    (limitLe : (slow.complete tuning slowLatency sampled).limit.toNat
      ≤ (fast.complete tuning fastLatency sampled).limit.toNat) :
    IsAhead (fast.complete tuning fastLatency sampled) (slow.complete tuning slowLatency sampled)
      fastGranted slowGranted := by
  obtain ⟨_, inflightLe, grantedLe⟩ := ahead.release
  refine ⟨limitLe, ?_, ?_⟩ <;> rwa [complete_inflight, complete_inflight]

end IsAhead

/-- With steps of one a raised limit is one higher, unless it is the ceiling. -/
theorem Tuning.toNat_raised_one (step : tuning.step = 1) (limit : UInt32) :
    (tuning.raised limit).toNat = min tuning.ceiling.toNat (limit.toNat + 1) := by
  rw [toNat_raised, step]
  rfl

/-- Two healthy samples. If the limits are equal and the second rises, at least as many are in
flight in the first, which rises as well unless doubling them leaves the word. -/
theorem limit_complete_healthy_le (step : tuning.step = 1)
    (ahead : IsAhead fast slow fastGranted slowGranted) (bounds : WithinBounds tuning fast)
    (fits : fast.limit.toNat < tuning.ceiling.toNat → fast.inflight.toNat ≤ 2 ^ 31)
    {fastLatency slowLatency : Binary64}
    (fastHealthy : tuning.target.lessThan fastLatency = false)
    (slowHealthy : tuning.target.lessThan slowLatency = false) :
    (slow.complete tuning slowLatency true).limit.toNat
      ≤ (fast.complete tuning fastLatency true).limit.toNat := by
  have leCeiling := bounds.le_ceiling
  have limitLe := ahead.limit_le
  have inflightLe := ahead.inflight_le
  rw [complete_of_healthy tuning slow slowHealthy, complete_of_healthy tuning fast fastHealthy]
  dsimp only
  split
  · next slowRises =>
    rw [Tuning.toNat_raised_one step]
    split
    · rw [Tuning.toNat_raised_one step]
      omega
    · next fastStays =>
      -- The first limit is higher already, or it is the ceiling.
      omega
  · split
    · rw [Tuning.toNat_raised_one step]
      omega
    · exact limitLe

/-- One sampled completion in both. A sample that is slow for the first run is so for the second. -/
theorem limit_complete_le (step : tuning.step = 1)
    (factor : Settings.isDecrease tuning.decrease)
    (ahead : IsAhead fast slow fastGranted slowGranted)
    (fastBounds : WithinBounds tuning fast) (slowBounds : WithinBounds tuning slow)
    (fits : fast.limit.toNat < tuning.ceiling.toNat → fast.inflight.toNat ≤ 2 ^ 31)
    {fastLatency slowLatency : Binary64} (ordered : fastLatency.atMost slowLatency = true) :
    (slow.complete tuning slowLatency true).limit.toNat
      ≤ (fast.complete tuning fastLatency true).limit.toNat := by
  have limitLe := ahead.limit_le
  cases fastLate : tuning.target.lessThan fastLatency with
  | true =>
      have slowLate := lessThan_of_atMost ordered fastLate
      rw [complete_limit_of_slow tuning slow slowLate, complete_limit_of_slow tuning fast fastLate]
      exact Tuning.reduced_mono factor limitLe
  | false =>
      cases slowLate : tuning.target.lessThan slowLatency with
      | false => exact limit_complete_healthy_le step ahead fastBounds fits fastLate slowLate
      | true =>
          have cut := slowBounds.reduced_le factor
          have kept : fast.limit.toNat ≤ (fast.complete tuning fastLatency true).limit.toNat := by
            have leCeiling := fastBounds.le_ceiling
            rw [complete_of_healthy tuning fast fastLate]
            dsimp only
            split
            · rw [Tuning.toNat_raised_one step]
              omega
            · exact Nat.le_refl _
          rw [complete_limit_of_slow tuning slow slowLate]
          exact Nat.le_trans cut (Nat.le_trans limitLe kept)

/-- One use of each limiter keeps the first ahead. -/
theorem IsAhead.apply (step : tuning.step = 1) (factor : Settings.isDecrease tuning.decrease)
    (ahead : IsAhead fast slow fastGranted slowGranted)
    (fastBounds : WithinBounds tuning fast) (slowBounds : WithinBounds tuning slow)
    (fits : fast.limit.toNat < tuning.ceiling.toNat → fast.inflight.toNat ≤ 2 ^ 31)
    {fastOperation slowOperation : Operation} (noSlower : fastOperation.NoSlower slowOperation) :
    IsAhead (fast.apply tuning fastOperation) (slow.apply tuning slowOperation)
      (fastGranted + fast.grants fastOperation) (slowGranted + slow.grants slowOperation) := by
  cases noSlower with
  | acquire => exact ahead.acquire
  | read => exact ahead
  | complete sampled ordered =>
      refine ahead.complete_of_limit_le ?_
      cases sampled with
      | false => exact ahead.limit_le
      | true => exact limit_complete_le step factor ahead fastBounds slowBounds fits ordered

/-- Whenever the limit is below the ceiling, no more than `2 ^ 31` are in flight, so that their
number less one is doubled within its word. -/
def NeverOverflows (tuning : Tuning) (state : Limiter) (operations : List Operation) : Prop :=
  ∀ count : Nat, (state.run tuning (operations.take count)).limit.toNat < tuning.ceiling.toNat →
    (state.run tuning (operations.take count)).inflight.toNat ≤ 2 ^ 31

/-- Whole runs keep the first ahead. -/
theorem IsAhead.run (step : tuning.step = 1) (factor : Settings.isDecrease tuning.decrease)
    (ahead : IsAhead fast slow fastGranted slowGranted)
    (fastBounds : WithinBounds tuning fast) (slowBounds : WithinBounds tuning slow)
    {faster slower : List Operation} (paired : List.Forall₂ Operation.NoSlower faster slower)
    (fits : NeverOverflows tuning fast faster) :
    IsAhead (fast.run tuning faster) (slow.run tuning slower)
      (fastGranted + granted tuning fast faster) (slowGranted + granted tuning slow slower) := by
  induction paired generalizing fast slow fastGranted slowGranted with
  | nil => exact ahead
  | cons noSlower _ inductionHypothesis =>
      have next := ahead.apply step factor fastBounds slowBounds (fits 0) noSlower
      have last := inductionHypothesis next (fastBounds.apply factor _) (slowBounds.apply factor _)
        fun count => fits (count + 1)
      rwa [Nat.add_assoc, Nat.add_assoc] at last

theorem fresh_isAhead (tuning : Tuning) : IsAhead (fresh tuning) (fresh tuning) 0 0 :=
  ⟨Nat.le_refl _, Nat.le_refl _, Nat.le_refl _⟩

theorem NeverOverflows.take {state : Limiter} {operations : List Operation}
    (fits : NeverOverflows tuning state operations) (count : Nat) :
    NeverOverflows tuning state (operations.take count) := by
  intro shorter
  rw [List.take_take]
  exact fits (min shorter count)

section Room

/-- Once the limit is below the ceiling, so is the number in flight: the use that cut the limit gave
a slot back, and no attempt goes past the limit. -/
theorem inflight_lt_ceiling_of_limit_lt (tuning : Tuning)
    (factor : Settings.isDecrease tuning.decrease) (operations : List Operation)
    (below : ((fresh tuning).run tuning operations).limit.toNat < tuning.ceiling.toNat) :
    ((fresh tuning).run tuning operations).inflight.toNat < tuning.ceiling.toNat := by
  induction operations using List.reverseRecOn with
  | nil => exact absurd below (Nat.lt_irrefl _)
  | append_singleton operations operation inductionHypothesis =>
      have bounds := (fresh_withinBounds tuning).run factor operations
      rw [run_append, run_singleton] at below ⊢
      cases operation with
      | read => exact inductionHypothesis below
      | acquire =>
          rw [Limiter.apply, acquire_limit] at below
          have before := inductionHypothesis below
          rw [Limiter.apply, toNat_acquire_inflight]
          split <;> omega
      | complete latency sampled =>
          have inflightLe := bounds.inflight_le
          have positive := Nat.zero_lt_of_lt below
          rw [Limiter.apply, complete_inflight, toNat_release_inflight]
          omega

/-- Ceilings of up to `2 ^ 31 + 1` leave room for doubling. -/
theorem neverOverflows_of_ceiling_le (factor : Settings.isDecrease tuning.decrease)
    (room : tuning.ceiling.toNat ≤ 2 ^ 31 + 1) (operations : List Operation) :
    NeverOverflows tuning (fresh tuning) operations := by
  intro count below
  have fewer := inflight_lt_ceiling_of_limit_lt tuning factor (operations.take count) below
  omega

end Room

/-- At every point the first of two runs from a fresh limiter has at least the limit, the number in
flight and the granted attempts of the second. -/
def StaysAhead (tuning : Tuning) (faster slower : List Operation) : Prop :=
  ∀ count : Nat,
    let fast := (fresh tuning).run tuning (faster.take count)
    let slow := (fresh tuning).run tuning (slower.take count)
    slow.limit ≤ fast.limit ∧ slow.inflight ≤ fast.inflight
      ∧ granted tuning (fresh tuning) (slower.take count)
        ≤ granted tuning (fresh tuning) (faster.take count)

/-- The limits at the end of two runs. -/
theorem StaysAhead.limit_le {faster slower : List Operation}
    (stays : StaysAhead tuning faster slower) (sameLength : faster.length = slower.length) :
    ((fresh tuning).run tuning slower).limit.toNat
      ≤ ((fresh tuning).run tuning faster).limit.toNat := by
  obtain ⟨limitLe, _⟩ := stays faster.length
  rwa [UInt32.le_iff_toNat_le, List.take_length, sameLength, List.take_length] at limitLe

/-- A run without slower completions stays ahead while nothing overflows in it below the ceiling. -/
theorem staysAhead_of_neverOverflows (step : tuning.step = 1)
    (factor : Settings.isDecrease tuning.decrease) {faster slower : List Operation}
    (paired : List.Forall₂ Operation.NoSlower faster slower)
    (fits : NeverOverflows tuning (fresh tuning) faster) : StaysAhead tuning faster slower := by
  intro count fast slow
  have bounds := fresh_withinBounds tuning
  obtain ⟨limitLe, inflightLe, grantedLe⟩ := (fresh_isAhead tuning).run step factor bounds bounds
    (List.forall₂_take count paired) (fits.take count)
  refine ⟨UInt32.le_iff_toNat_le.mpr limitLe, UInt32.le_iff_toNat_le.mpr inflightLe, ?_⟩
  omega

end Limiter

end AdmissionControl
