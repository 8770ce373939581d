import AdmissionControl.Limiter.Basic
import AdmissionControl.Proofs.Binary64.Rounding
import AdmissionControl.Settings.Basic

/-!
# What one use of a limiter does

The limiter counts in 32-bit words. Here each of its operations is described once in natural
numbers, with the guard that it takes; later proofs cite these descriptions and do not open the
operations again.
-/

namespace AdmissionControl

private theorem toNat_max (left right : UInt32) :
    (max left right).toNat = max left.toNat right.toNat := by
  change (if left ≤ right then right else left).toNat = _
  simp only [UInt32.le_iff_toNat_le]
  split <;> omega

private theorem toNat_min (left right : UInt32) :
    (min left right).toNat = min left.toNat right.toNat := by
  change (if left ≤ right then left else right).toNat = _
  simp only [UInt32.le_iff_toNat_le]
  split <;> omega

/-- An acceptable factor is a finite number above zero and below one. -/
theorem Settings.exists_of_isDecrease {factor : Binary64} (accepted : isDecrease factor) :
    ∃ magnitude, factor = .finite false magnitude ∧ magnitude.units < Binary64.unitsPerOne := by
  have one : (Binary64.ofNat 1).rank = some (Binary64.unitsPerOne : Int) := by
    rw [Binary64.ofNat_eq (by decide)]
    simp only [Binary64.rank, Nat.one_mul]
    rfl
  have zero : Binary64.zero.rank = some 0 := rfl
  simp only [isDecrease, Binary64.lessThan, zero, one, Bool.and_eq_true] at accepted
  obtain ⟨aboveZero, belowOne⟩ := accepted
  cases factor with
  | nan => exact absurd aboveZero Bool.false_ne_true
  | infinite negative =>
      cases negative with
      | false =>
          have below := of_decide_eq_true belowOne
          have past : Binary64.unitsPerOne ≤ Binary64.unitBound :=
            Nat.pow_le_pow_right Nat.two_pos (by decide)
          simp only [Bool.false_eq_true, if_false] at below
          omega
      | true =>
          have above := of_decide_eq_true aboveZero
          have positive := Binary64.unitBound_pos
          simp only [if_true] at above
          omega
  | finite negative magnitude =>
      cases negative with
      | false =>
          have below := of_decide_eq_true belowOne
          simp only [Bool.false_eq_true, if_false] at below
          exact ⟨magnitude, rfl, by omega⟩
      | true =>
          have above := of_decide_eq_true aboveZero
          simp only [if_true] at above
          omega

namespace Limiter

namespace Tuning

variable (tuning : Tuning)

theorem toNat_ceiling : tuning.ceiling.toNat = max tuning.initialLimit.toNat 1 :=
  toNat_max tuning.initialLimit 1

theorem toNat_floor : tuning.floor.toNat = max (tuning.ceiling.toNat / 2) 1 := by
  rw [floor, toNat_max, UInt32.toNat_div]
  rfl

theorem one_le_floor : 1 ≤ tuning.floor.toNat := by
  rw [toNat_floor]
  exact Nat.le_max_right _ _

theorem floor_le_ceiling : tuning.floor.toNat ≤ tuning.ceiling.toNat := by
  rw [toNat_floor, toNat_ceiling]
  omega

/-- The limit rises by the step in unbounded numbers: where the word would overflow, the ceiling
cuts the sum off before that shows. -/
theorem toNat_raised (limit : UInt32) :
    (tuning.raised limit).toNat = min tuning.ceiling.toNat (limit.toNat + tuning.step.toNat) := by
  have ceilingBounded := tuning.ceiling.toNat_lt
  have limitBounded := limit.toNat_lt
  have stepBounded := tuning.step.toNat_lt
  have greatest : (UInt32.ofNat (UInt32.size - 1)).toNat = 2 ^ 32 - 1 := rfl
  simp only [raised, toNat_min]
  split
  · next overflowed =>
    rw [UInt32.lt_iff_toNat_lt, UInt32.toNat_add] at overflowed
    omega
  · next exact =>
    rw [UInt32.lt_iff_toNat_lt, UInt32.toNat_add] at exact
    rw [UInt32.toNat_add]
    omega

/-- The limit after a slow sample is the floor or the rounded product, whichever is greater. -/
theorem toNat_reduced (limit : UInt32) :
    (tuning.reduced limit).toNat
      = max tuning.floor.toNat
          ((Binary64.ofNat limit.toNat * tuning.decrease).floorWithin (UInt32.size - 1)) := by
  rw [reduced, toNat_max, UInt32.toNat_ofNat_of_lt']
  exact Nat.lt_of_le_of_lt (Binary64.floorWithin_le _ _) (by decide)

theorem floor_le_reduced (limit : UInt32) :
    tuning.floor.toNat ≤ (tuning.reduced limit).toNat := by
  rw [toNat_reduced]
  exact Nat.le_max_left _ _

/-- A slow sample takes the limit at least one down, unless the floor stops it. -/
theorem reduced_lt {tuning : Tuning} (factor : Settings.isDecrease tuning.decrease)
    {limit : UInt32} (aboveFloor : tuning.floor.toNat < limit.toNat) :
    (tuning.reduced limit).toNat < limit.toNat := by
  obtain ⟨magnitude, eq, belowOne⟩ := Settings.exists_of_isDecrease factor
  have limitBounded := limit.toNat_lt
  rw [toNat_reduced, eq]
  have product := Binary64.floorWithin_mul_lt (UInt32.size - 1)
    (Nat.zero_lt_of_lt aboveFloor) (by omega) belowOne
  exact Nat.max_lt.mpr ⟨aboveFloor, product⟩

end Tuning

variable (tuning : Tuning) (state : Limiter)

@[simp] theorem fresh_limit : (fresh tuning).limit = tuning.ceiling := rfl
@[simp] theorem fresh_inflight : (fresh tuning).inflight = 0 := rfl
@[simp] theorem fresh_degraded : (fresh tuning).degraded = false := rfl

/-- A slot is granted exactly while fewer than the limit are in flight. -/
theorem acquire_admitted_iff :
    state.acquire.admitted = true ↔ state.inflight.toNat < state.limit.toNat := by
  simp only [acquire, UInt32.lt_iff_toNat_lt]
  split <;> simp_all

theorem acquire_of_room (room : state.inflight.toNat < state.limit.toNat) :
    state.acquire = ⟨true, { state with inflight := state.inflight + 1 }⟩ := by
  rw [acquire, if_pos (UInt32.lt_iff_toNat_lt.mpr room)]

theorem acquire_of_full (full : state.limit.toNat ≤ state.inflight.toNat) :
    state.acquire = ⟨false, state⟩ := by
  rw [acquire, if_neg (mt UInt32.lt_iff_toNat_lt.mp (Nat.not_lt.mpr full))]

/-- A rejected attempt changes nothing. -/
theorem acquire_state_of_full (full : state.limit.toNat ≤ state.inflight.toNat) :
    state.acquire.state = state := by
  rw [acquire_of_full state full]

@[simp] theorem acquire_limit : state.acquire.state.limit = state.limit := by
  unfold acquire
  split <;> rfl

@[simp] theorem acquire_degraded : state.acquire.state.degraded = state.degraded := by
  unfold acquire
  split <;> rfl

/-- A granted attempt takes exactly one slot. -/
theorem toNat_acquire_inflight :
    state.acquire.state.inflight.toNat
      = state.inflight.toNat + (if state.inflight.toNat < state.limit.toNat then 1 else 0) := by
  have bounded := state.limit.toNat_lt
  simp only [acquire, UInt32.lt_iff_toNat_lt]
  split
  · rw [UInt32.toNat_add]
    simp only [UInt32.toNat_one]
    omega
  · rfl

/-- An attempt takes a slot exactly if it is granted. -/
theorem toNat_acquire_inflight_eq :
    state.acquire.state.inflight.toNat
      = state.inflight.toNat + state.acquire.admitted.toNat := by
  rw [toNat_acquire_inflight]
  cases admitted : state.acquire.admitted with
  | true => rw [if_pos ((acquire_admitted_iff state).mp admitted), Bool.toNat_true]
  | false =>
      have full := mt (acquire_admitted_iff state).mpr (by simp [admitted])
      rw [if_neg full, Bool.toNat_false]

section Bursts

theorem acquireTimes_zero : state.acquireTimes 0 = ⟨0, none, state⟩ := by
  unfold acquireTimes
  simp

/-- The number in flight grows by what was granted. -/
theorem toNat_acquireTimes_inflight (attempts : Nat) :
    (state.acquireTimes attempts).state.inflight.toNat
      = state.inflight.toNat + (state.acquireTimes attempts).granted := by
  have bounded := state.limit.toNat_lt
  have inflightBounded := state.inflight.toNat_lt
  simp only [acquireTimes, UInt32.toNat_add]
  rw [UInt32.toNat_ofNat_of_lt' (by change _ < 2 ^ 32; omega)]
  omega

/-- One attempt more is made in the state that the attempts before it leave. -/
theorem acquireTimes_succ (attempts : Nat) :
    state.acquireTimes (attempts + 1)
      = ⟨(state.acquireTimes attempts).granted
            + (state.acquireTimes attempts).state.acquire.admitted.toNat,
          some (state.acquireTimes attempts).state.acquire,
          (state.acquireTimes attempts).state.acquire.state⟩ := by
  have inflightEq := toNat_acquireTimes_inflight state attempts
  have limitEq : (state.acquireTimes attempts).state.limit = state.limit := rfl
  have grantedEq : (state.acquireTimes attempts).granted
      = min attempts (state.limit.toNat - state.inflight.toNat) := rfl
  rcases Nat.lt_or_ge attempts (state.limit.toNat - state.inflight.toNat) with room | full
  · have admitted := acquire_of_room (state.acquireTimes attempts).state
      (by rw [limitEq, inflightEq, grantedEq]; omega)
    rw [admitted]
    simp only [acquireTimes, Nat.min_eq_left (Nat.le_of_lt room), Nat.min_eq_left room,
      UInt32.add_assoc]
    simp
  · have rejected := acquire_of_full (state.acquireTimes attempts).state
      (by rw [limitEq, inflightEq, grantedEq]; omega)
    rw [rejected]
    simp only [acquireTimes, Nat.min_eq_right full, Nat.min_eq_right (Nat.le_succ_of_le full)]
    simp
    omega

end Bursts

@[simp] theorem release_limit : state.release.limit = state.limit := rfl
@[simp] theorem release_degraded : state.release.degraded = state.degraded := rfl

/-- Giving a slot back stops at zero. -/
@[simp] theorem toNat_release_inflight :
    state.release.inflight.toNat = state.inflight.toNat - 1 := by
  have zero : state.inflight = 0 ↔ state.inflight.toNat = 0 := UInt32.toNat_inj.symm
  rw [release]
  simp only [zero]
  split
  · simp_all
  · next positive =>
    have atLeastOne : 1 ≤ state.inflight := UInt32.le_iff_toNat_le.mpr (Nat.pos_of_ne_zero positive)
    exact UInt32.toNat_sub_of_le _ _ atLeastOne

variable (latency : Binary64) (sampled : Bool)

/-- A completion gives one slot back, whatever it does to the limit. -/
@[simp] theorem complete_inflight :
    (state.complete tuning latency sampled).inflight = state.release.inflight := by
  unfold complete retune
  repeat' split
  all_goals rfl

@[simp] theorem complete_unsampled : state.complete tuning latency false = state.release := rfl

/-- A slow sample cuts the limit. -/
theorem complete_of_slow {latency : Binary64} (slow : tuning.target.lessThan latency = true) :
    state.complete tuning latency true
      = { state.release with limit := tuning.reduced state.limit, degraded := true } := by
  rw [complete, if_pos rfl, retune, if_pos slow]
  rfl

theorem complete_limit_of_slow {latency : Binary64}
    (slow : tuning.target.lessThan latency = true) :
    (state.complete tuning latency true).limit = tuning.reduced state.limit := by
  rw [complete_of_slow tuning state slow]

/-- A healthy sample raises the limit when the test for saturation, in words, says so. -/
theorem complete_of_healthy {latency : Binary64}
    (healthy : tuning.target.lessThan latency = false) :
    state.complete tuning latency true
      = { state.release with
          limit :=
            if state.limit.toNat ≤ (state.inflight.toNat - 1) * 2 % 2 ^ 32 then
              tuning.raised state.limit
            else state.limit
          degraded := false } := by
  rw [complete, if_pos rfl, retune, if_neg (by simp [healthy])]
  simp only [UInt32.le_iff_toNat_le, UInt32.toNat_mul, toNat_release_inflight, release_limit]
  have two : UInt32.toNat 2 = 2 := rfl
  rw [two]
  split <;> rfl

end Limiter

end AdmissionControl
