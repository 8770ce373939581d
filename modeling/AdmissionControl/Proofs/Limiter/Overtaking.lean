import AdmissionControl.Binary64.Bits
import AdmissionControl.Proofs.Limiter.Comparison

/-!
# A slower run that overtakes

From a ceiling of `2 ^ 31 + 2` on, the number in flight can be too large to be doubled within its
word while the limit is below the ceiling. Two runs show what comes of it: the first has one more in
flight than the second, sees none of them at a healthy sample and keeps its limit, while the second
sees all of them and rises past it. So the ceilings up to which faster completions never hurt are
known exactly.
-/

namespace AdmissionControl

namespace Limiter

/-- The factor nearest to one. -/
def slightDecrease : Binary64 := .finite false .belowOne

example : slightDecrease.toBits = 0x3fefffffffffffff := by decide +kernel

theorem isDecrease_slightDecrease : Settings.isDecrease slightDecrease = true := by
  decide +kernel

/-- A limiter whose limit falls by one at a time. -/
def Tuning.slight (initialLimit : UInt32) : Tuning where
  initialLimit := initialLimit
  targetMilliseconds := 300
  decrease := slightDecrease

theorem Tuning.initialLimit_slight (initialLimit : UInt32) :
    (slight initialLimit).initialLimit = initialLimit := rfl

theorem Tuning.decrease_slight (initialLimit : UInt32) :
    (slight initialLimit).decrease = slightDecrease := rfl

theorem Tuning.isDecrease_slight (initialLimit : UInt32) :
    Settings.isDecrease (slight initialLimit).decrease = true := by
  rw [decrease_slight, isDecrease_slightDecrease]

variable {initialLimit : UInt32}

/-- Such a factor takes the limit down by exactly one. -/
theorem Tuning.toNat_reduced_slight {limit : UInt32}
    (aboveFloor : (slight initialLimit).floor.toNat < limit.toNat) :
    ((slight initialLimit).reduced limit).toNat = limit.toNat - 1 := by
  have bounded := limit.toNat_lt
  have less := reduced_lt (isDecrease_slight initialLimit) aboveFloor
  obtain ⟨before, eq⟩ := Nat.exists_eq_add_of_lt (Nat.zero_lt_of_lt aboveFloor)
  rw [Nat.zero_add] at eq
  have size : UInt32.size = 2 ^ 32 := rfl
  have small : before ≤ UInt32.size - 1 := by omega
  have kept := Binary64.le_floorWithin_mul_belowOne (by omega) small
  have atLeast : before ≤ ((slight initialLimit).reduced limit).toNat := by
    rw [toNat_reduced, decrease_slight, slightDecrease, eq]
    exact Nat.le_trans kept (Nat.le_max_right _ _)
  omega

/-- The numbers that a state holds. -/
structure Holds (state : Limiter) (limit inflight : Nat) : Prop where
  limit_eq : state.limit.toNat = limit
  inflight_eq : state.inflight.toNat = inflight

namespace Holds

variable {state : Limiter} {limit inflight : Nat} (tuning : Tuning)

theorem acquire (holds : Holds state limit inflight) (room : inflight < limit) :
    Holds (state.apply tuning .acquire) limit (inflight + 1) := by
  obtain ⟨limitEq, inflightEq⟩ := holds
  refine ⟨by rwa [Limiter.apply, acquire_limit], ?_⟩
  rw [Limiter.apply, toNat_acquire_inflight, if_pos (by omega), inflightEq]

/-- Attempts in a row are granted up to the limit. -/
theorem acquires (holds : Holds state limit inflight) (within : inflight ≤ limit) (attempts : Nat)
    (many : limit ≤ inflight + attempts) :
    Holds (state.run tuning (List.replicate attempts .acquire)) limit limit := by
  obtain ⟨limitEq, inflightEq⟩ := holds
  rw [← acquireTimes_state]
  refine ⟨limitEq, ?_⟩
  have granted : (state.acquireTimes attempts).granted = limit - inflight := by
    rw [← limitEq, ← inflightEq]
    exact Nat.min_eq_right (by omega)
  rw [toNat_acquireTimes_inflight, granted]
  omega

/-- Completions without a sample give slots back and do nothing else. -/
theorem releases (holds : Holds state limit inflight) (latency : Binary64) (count : Nat) :
    Holds (state.run tuning (List.replicate count (.complete latency false))) limit
      (inflight - count) := by
  induction count generalizing state inflight with
  | zero => exact holds
  | succ count inductionHypothesis =>
      obtain ⟨limitEq, inflightEq⟩ := holds
      have released : Holds (state.apply tuning (.complete latency false)) limit (inflight - 1) :=
        ⟨limitEq, by rw [Limiter.apply, complete_inflight, toNat_release_inflight, inflightEq]⟩
      have rest := inductionHypothesis released
      rwa [Nat.sub_sub, Nat.add_comm] at rest

/-- A slow sample takes one off both numbers. -/
theorem slow (holds : Holds state limit inflight)
    (aboveFloor : (Tuning.slight initialLimit).floor.toNat < limit) :
    Holds (state.apply (Tuning.slight initialLimit) (.complete (.infinite false) true)) (limit - 1)
      (inflight - 1) := by
  obtain ⟨limitEq, inflightEq⟩ := holds
  rw [Limiter.apply, complete_of_slow _ state (Tuning.target_lessThan_infinite _)]
  refine ⟨?_, ?_⟩ <;> dsimp only
  · rw [Tuning.toNat_reduced_slight (by omega), limitEq]
  · rw [toNat_release_inflight, inflightEq]

/-- A healthy sample that does not see half of the limit in use keeps the limit. -/
theorem unseen (holds : Holds state limit inflight)
    (few : (inflight - 1) * 2 % 2 ^ 32 < limit) :
    Holds (state.apply tuning (.complete .zero true)) limit (inflight - 1) := by
  obtain ⟨limitEq, inflightEq⟩ := holds
  rw [Limiter.apply, complete_of_healthy _ state tuning.target_lessThan_zero]
  refine ⟨?_, ?_⟩ <;> dsimp only
  · rw [if_neg (by omega), limitEq]
  · rw [toNat_release_inflight, inflightEq]

/-- One that sees it raises the limit. -/
theorem seen (holds : Holds state limit inflight) (step : tuning.step = 1)
    (below : limit < tuning.ceiling.toNat) (many : limit ≤ (inflight - 1) * 2 % 2 ^ 32) :
    Holds (state.apply tuning (.complete .zero true)) (limit + 1) (inflight - 1) := by
  obtain ⟨limitEq, inflightEq⟩ := holds
  rw [Limiter.apply, complete_of_healthy _ state tuning.target_lessThan_zero]
  refine ⟨?_, ?_⟩ <;> dsimp only
  · rw [if_pos (by omega), Tuning.toNat_raised_one step]
    omega
  · rw [toNat_release_inflight, inflightEq]

end Holds

/-- What both runs do after their first sample: they take every slot, give slots back until the
number in flight is about `2 ^ 31`, and then see a healthy sample, two attempts, a slow sample and
another healthy one. -/
def crossing (limit : Nat) : List Operation :=
  List.replicate limit .acquire
    ++ List.replicate (limit - (2 ^ 31 + 1)) (.complete .zero false)
    ++ [.complete .zero true, .acquire, .acquire, .complete (.infinite false) true,
      .complete .zero true]

/-- The two runs differ in their first sample alone. -/
theorem crossing_paired (limit : Nat) :
    List.Forall₂ Operation.NoSlower (.complete .zero true :: crossing limit)
      (.complete (.infinite false) true :: crossing limit) := by
  have same : List.Forall₂ Operation.NoSlower (crossing limit) (crossing limit) := by
    rw [List.forall₂_same, crossing, List.forall_mem_append, List.forall_mem_append]
    refine ⟨⟨?_, ?_⟩, ?_⟩
    · rw [List.forall_mem_replicate]
      exact .inr .acquire
    · rw [List.forall_mem_replicate]
      exact .inr (.complete false (Binary64.atMost_self nofun))
    · simp only [List.forall_mem_cons]
      exact ⟨.complete true (Binary64.atMost_self nofun), .acquire, .acquire,
        .complete true (Binary64.atMost_self nofun), .complete true (Binary64.atMost_self nofun),
        List.forall_mem_nil _⟩
  exact .cons (.complete true (Binary64.atMost_of_lessThan (Binary64.finite_lessThan_infinite _)))
    same

theorem run_crossing (tuning : Tuning) (state : Limiter) (limit : Nat) :
    state.run tuning (crossing limit)
      = ((((((state.run tuning (List.replicate limit .acquire)).run tuning
            (List.replicate (limit - (2 ^ 31 + 1)) (.complete .zero false))).apply tuning
            (.complete .zero true)).apply tuning .acquire).apply tuning .acquire).apply tuning
            (.complete (.infinite false) true)).apply tuning (.complete .zero true) := by
  rw [crossing, run_append, run_append, run_cons, run_cons, run_cons, run_cons, run_singleton]

section Runs

variable (large : 2 ^ 31 + 2 ≤ initialLimit.toNat)

include large

theorem toNat_ceiling_slight :
    (Tuning.slight initialLimit).ceiling.toNat = initialLimit.toNat := by
  rw [Tuning.toNat_ceiling, Tuning.initialLimit_slight]
  omega

theorem holds_fresh_slight :
    Holds (fresh (.slight initialLimit)) initialLimit.toNat 0 :=
  ⟨toNat_ceiling_slight large, rfl⟩

theorem floor_slight_lt {limit : Nat} (near : initialLimit.toNat ≤ limit + 1) :
    (Tuning.slight initialLimit).floor.toNat < limit := by
  rw [Tuning.toNat_floor, toNat_ceiling_slight large]
  omega

/-- The faster run ends one below the ceiling: with `2 ^ 31` left in flight it does not see them. -/
theorem run_faster_limit :
    ((fresh (.slight initialLimit)).run (.slight initialLimit)
      (.complete .zero true :: crossing initialLimit.toNat)).limit.toNat
        = initialLimit.toNat - 1 := by
  have bounded := initialLimit.toNat_lt
  let tuning : Tuning := .slight initialLimit
  have started := (holds_fresh_slight large).unseen tuning (by omega)
  have full := started.acquires tuning (Nat.zero_le _) initialLimit.toNat (by omega)
  have fewer := full.releases tuning .zero (initialLimit.toNat - (2 ^ 31 + 1))
  have kept := fewer.unseen tuning (by omega)
  have again := (kept.acquire tuning (by omega)).acquire tuning (by omega)
  have cut := again.slow (floor_slight_lt large (by omega))
  have last := cut.unseen tuning (by omega)
  rw [run_cons, run_crossing]
  exact last.limit_eq

/-- The slower run ends at the ceiling: it has one less in flight and sees them. -/
theorem run_slower_limit :
    ((fresh (.slight initialLimit)).run (.slight initialLimit)
      (.complete (.infinite false) true :: crossing initialLimit.toNat)).limit.toNat
        = initialLimit.toNat := by
  have bounded := initialLimit.toNat_lt
  let tuning : Tuning := .slight initialLimit
  have ceilingEq : tuning.ceiling.toNat = initialLimit.toNat := toNat_ceiling_slight large
  have step : tuning.step = 1 := rfl
  have started := (holds_fresh_slight large).slow (floor_slight_lt large (by omega))
  have full := started.acquires tuning (Nat.zero_le _) initialLimit.toNat (by omega)
  have fewer := full.releases tuning .zero (initialLimit.toNat - (2 ^ 31 + 1))
  have risen := fewer.seen tuning step (by omega) (by omega)
  have again := (risen.acquire tuning (by omega)).acquire tuning (by omega)
  have cut := again.slow (floor_slight_lt large (by omega))
  have last := cut.seen tuning step (by omega) (by omega)
  rw [run_cons, run_crossing, last.limit_eq]
  omega

end Runs

/-- Faster completions never hurt while nothing overflows: with steps of one, whatever the initial
limit, the target and the factor, a run in which no completion is slower stays ahead of the other as
long as no more than `2 ^ 31` are in flight in it whenever its limit is below the ceiling. Initial
limits of up to `2 ^ 31 + 1` leave no other runs, and every greater one has runs that fall behind. -/
theorem faster_never_hurts (initialLimit : UInt32) :
    (∀ tuning : Tuning, tuning.initialLimit = initialLimit → tuning.step = 1 →
        Settings.isDecrease tuning.decrease = true →
        ∀ faster slower : List Operation, List.Forall₂ Operation.NoSlower faster slower →
          NeverOverflows tuning (fresh tuning) faster → StaysAhead tuning faster slower)
      ∧ ((∀ tuning : Tuning, tuning.initialLimit = initialLimit → tuning.step = 1 →
              Settings.isDecrease tuning.decrease = true →
              ∀ faster slower : List Operation, List.Forall₂ Operation.NoSlower faster slower →
                StaysAhead tuning faster slower) ↔
            initialLimit.toNat ≤ 2 ^ 31 + 1) := by
  refine ⟨fun tuning _ step factor faster slower paired fits =>
    staysAhead_of_neverOverflows step factor paired fits, ⟨?_, ?_⟩⟩
  · intro always
    by_contra large
    rw [Nat.not_le] at large
    have paired := crossing_paired initialLimit.toNat
    have limitLe := (always (.slight initialLimit) rfl rfl (Tuning.isDecrease_slight initialLimit) _
      _ paired).limit_le paired.length_eq
    rw [run_faster_limit large, run_slower_limit large] at limitLe
    omega
  · rintro room tuning rfl step factor faster slower paired
    have ceilingEq := tuning.toNat_ceiling
    exact staysAhead_of_neverOverflows step factor paired
      (neverOverflows_of_ceiling_le factor (by omega) faster)

/-- A limiter of `2 ^ 31 + 2`: the run whose first completion is faster ends with a limit one lower
than that of the other. -/
theorem faster_run_falls_behind :
    let tuning : Tuning := .slight 2147483650
    let faster : List Operation := .complete .zero true :: crossing 2147483650
    let slower : List Operation := .complete (.infinite false) true :: crossing 2147483650
    tuning.step = 1
      ∧ Settings.isDecrease tuning.decrease = true
      ∧ List.Forall₂ Operation.NoSlower faster slower
      ∧ ((fresh tuning).run tuning faster).limit.toNat = 2147483649
      ∧ ((fresh tuning).run tuning slower).limit.toNat = 2147483650
      ∧ ¬ StaysAhead tuning faster slower := by
  intro tuning faster slower
  have value : (2147483650 : UInt32).toNat = 2147483650 := rfl
  have large : 2 ^ 31 + 2 ≤ (2147483650 : UInt32).toNat := by omega
  have fasterLimit := run_faster_limit large
  have slowerLimit := run_slower_limit large
  rw [value] at fasterLimit slowerLimit
  have paired : List.Forall₂ Operation.NoSlower faster slower := crossing_paired 2147483650
  refine ⟨rfl, Tuning.isDecrease_slight _, paired, fasterLimit, slowerLimit, fun stays => ?_⟩
  have limitLe := stays.limit_le paired.length_eq
  rw [fasterLimit, slowerLimit] at limitLe
  omega

end Limiter

end AdmissionControl
