import AdmissionControl.Proofs.Binary64.Order
import AdmissionControl.Proofs.Limiter.Invariant

/-!
# Recovery of a limiter

Growth is tested after the slot of the completing operation has been given back. A limit of two or
more can still be seen to be in use then, and grows back to the ceiling under healthy completions.
A limit of one cannot: with at most one in flight nothing is left to see, and the limit stays at one
whatever follows. `IsStalled` names these states; they are reachable exactly below ceilings of two
and three.
-/

namespace AdmissionControl

namespace Limiter

variable {tuning : Tuning} {state : Limiter}

/-- The limit is one, below the ceiling, and at most one operation is in flight. -/
structure IsStalled (tuning : Tuning) (state : Limiter) : Prop where
  ceiling_ne : tuning.ceiling.toNat ≠ 1
  limit_eq : state.limit.toNat = 1
  inflight_le : state.inflight.toNat ≤ 1

/-- Uses that show the limiter no latency past its target: attempts, and sampled completions. -/
def Operation.IsHealthy (tuning : Tuning) : Operation → Prop
  | .acquire => True
  | .complete latency sampled => sampled = true ∧ latency.atMost tuning.target = true
  | .read => False

theorem Tuning.atMost_target_self (tuning : Tuning) :
    tuning.target.atMost tuning.target = true := by
  obtain ⟨magnitude, eq⟩ :=
    Binary64.exists_ofNat_eq (Nat.le_of_lt tuning.targetMilliseconds.toNat_lt)
  rw [Tuning.target, eq]
  exact Binary64.atMost_finite_self false magnitude

theorem Tuning.target_lessThan_infinite (tuning : Tuning) :
    tuning.target.lessThan (.infinite false) = true := by
  obtain ⟨magnitude, eq⟩ :=
    Binary64.exists_ofNat_eq (Nat.le_of_lt tuning.targetMilliseconds.toNat_lt)
  rw [Tuning.target, eq]
  exact Binary64.finite_lessThan_infinite magnitude

/-- No latency is less than none. -/
theorem Tuning.target_lessThan_zero (tuning : Tuning) :
    tuning.target.lessThan .zero = false := by
  obtain ⟨magnitude, eq⟩ :=
    Binary64.exists_ofNat_eq (Nat.le_of_lt tuning.targetMilliseconds.toNat_lt)
  rw [Tuning.target, eq]
  simp [Binary64.lessThan, Binary64.rank, Binary64.zero, Binary64.Magnitude.zero]

/-- A completion right at the target is healthy. -/
theorem isHealthy_complete_target (tuning : Tuning) :
    (Operation.complete tuning.target true).IsHealthy tuning :=
  ⟨rfl, tuning.atMost_target_self⟩

/-- What a completion within the target does to the limit. -/
theorem complete_limit_of_atMost (state : Limiter) {latency : Binary64}
    (within : latency.atMost tuning.target = true) :
    (state.complete tuning latency true).limit
      = if state.limit.toNat ≤ (state.inflight.toNat - 1) * 2 % 2 ^ 32 then
          tuning.raised state.limit
        else state.limit := by
  rw [complete_of_healthy tuning state (Binary64.lessThan_eq_false_of_atMost within)]

/-- Below the ceiling a raised limit has risen. -/
theorem Tuning.lt_raised {limit : UInt32} (step : tuning.step ≠ 0)
    (below : limit.toNat < tuning.ceiling.toNat) : limit.toNat < (tuning.raised limit).toNat := by
  have stepPositive : tuning.step.toNat ≠ 0 := fun zero => step (UInt32.toNat_inj.mp zero)
  rw [Tuning.toNat_raised]
  omega

/-- A stalled limiter stays stalled, whatever is done with it. -/
theorem IsStalled.apply (stalled : IsStalled tuning state) (bounds : WithinBounds tuning state)
    (factor : Settings.isDecrease tuning.decrease) (operation : Operation) :
    IsStalled tuning (state.apply tuning operation) := by
  have ceilingNe := stalled.ceiling_ne
  have limitEq := stalled.limit_eq
  have inflightLe := stalled.inflight_le
  cases operation with
  | read => exact stalled
  | acquire =>
      refine ⟨ceilingNe, by rwa [Limiter.apply, acquire_limit], ?_⟩
      rw [Limiter.apply, toNat_acquire_inflight]
      split <;> omega
  | complete latency sampled =>
      refine ⟨ceilingNe, ?_, ?_⟩
      · cases sampled with
        | false => exact limitEq
        | true =>
            rw [Limiter.apply]
            cases slow : tuning.target.lessThan latency with
            | true =>
                rw [complete_limit_of_slow tuning state slow]
                have cut := bounds.reduced_le factor
                have floorLe := Tuning.floor_le_reduced tuning state.limit
                have positive := tuning.one_le_floor
                omega
            | false =>
                rw [complete_of_healthy tuning state slow]
                dsimp only
                rw [if_neg (by omega)]
                exact limitEq
      · rw [Limiter.apply, complete_inflight, toNat_release_inflight]
        omega

/-- No sequence of uses gets a stalled limiter going again. -/
theorem IsStalled.run (stalled : IsStalled tuning state) (bounds : WithinBounds tuning state)
    (factor : Settings.isDecrease tuning.decrease) (operations : List Operation) :
    IsStalled tuning (state.run tuning operations) := by
  induction operations generalizing state with
  | nil => exact stalled
  | cons operation rest inductionHypothesis =>
      exact inductionHypothesis (stalled.apply bounds factor operation)
        (bounds.apply factor operation)

/-- A stalled limiter never comes back to its ceiling. -/
theorem IsStalled.run_limit_ne (stalled : IsStalled tuning state)
    (bounds : WithinBounds tuning state) (factor : Settings.isDecrease tuning.decrease)
    (operations : List Operation) : (state.run tuning operations).limit ≠ tuning.ceiling := by
  intro recovered
  obtain ⟨ceilingNe, limitEq, _⟩ := stalled.run bounds factor operations
  rw [recovered] at limitEq
  exact ceilingNe limitEq

theorem run_cons (tuning : Tuning) (state : Limiter) (operation : Operation)
    (rest : List Operation) :
    state.run tuning (operation :: rest) = (state.apply tuning operation).run tuning rest := rfl

theorem run_singleton (tuning : Tuning) (state : Limiter) (operation : Operation) :
    state.run tuning [operation] = state.apply tuning operation := rfl

/-- Attempts up to the limit are all granted. -/
theorem run_replicate_acquire (tuning : Tuning) (state : Limiter) {count : Nat}
    (room : state.inflight.toNat + count ≤ state.limit.toNat) :
    (state.run tuning (List.replicate count .acquire)).limit = state.limit
      ∧ (state.run tuning (List.replicate count .acquire)).inflight.toNat
          = state.inflight.toNat + count := by
  induction count generalizing state with
  | zero => exact ⟨rfl, rfl⟩
  | succ count inductionHypothesis =>
      have granted := toNat_acquire_inflight state
      rw [if_pos (by omega)] at granted
      obtain ⟨limitEq, inflightEq⟩ := inductionHypothesis state.acquire.state
        (by rw [acquire_limit, granted]; omega)
      rw [List.replicate_succ]
      refine ⟨limitEq.trans (acquire_limit state), inflightEq.trans ?_⟩
      rw [granted]
      omega

/-- From two or more the limit can be made to rise: the number in flight is brought to where a
completion sees the limit in use without leaving the 32-bit words, and then one completes. -/
theorem exists_rise (step : tuning.step ≠ 0) (two : 2 ≤ state.limit.toNat)
    (below : state.limit.toNat < tuning.ceiling.toNat) :
    ∃ continuation : List Operation, (∀ operation ∈ continuation, operation.IsHealthy tuning)
      ∧ state.limit.toNat < (state.run tuning continuation).limit.toNat := by
  have ceilingBounded := tuning.ceiling.toNat_lt
  have within := tuning.atMost_target_self
  induction inflightEq : state.inflight.toNat using Nat.strongRecOn generalizing state with
  | ind count inductionHypothesis =>
      by_cases filling : count ≤ min state.limit.toNat (2 ^ 31)
      · -- Attempts fill the limit up, or as much of it as can be doubled.
        obtain ⟨missing, missingEq⟩ := Nat.exists_eq_add_of_le filling
        have room : state.inflight.toNat + missing ≤ state.limit.toNat := by omega
        obtain ⟨limitEq, filledEq⟩ := run_replicate_acquire tuning state room
        refine ⟨List.replicate missing .acquire ++ [.complete tuning.target true], ?_, ?_⟩
        · rw [List.forall_mem_append, List.forall_mem_replicate, List.forall_mem_singleton]
          exact ⟨.inr trivial, isHealthy_complete_target tuning⟩
        · rw [run_append, run_singleton, Limiter.apply, complete_limit_of_atMost _ within, limitEq,
            filledEq, if_pos (by omega)]
          exact Tuning.lt_raised step below
      · -- Too many are in flight: one completes, which raises the limit or leaves fewer.
        have limitEq := complete_limit_of_atMost state within
        split at limitEq
        · refine ⟨[.complete tuning.target true],
            List.forall_mem_singleton.mpr (isHealthy_complete_target tuning), ?_⟩
          rw [run_singleton, Limiter.apply, limitEq]
          exact Tuning.lt_raised step below
        · have fewer : (state.complete tuning tuning.target true).inflight.toNat = count - 1 := by
            rw [complete_inflight, toNat_release_inflight, inflightEq]
          obtain ⟨continuation, healthy, risen⟩ := inductionHypothesis (count - 1) (by omega)
            (by rwa [limitEq]) (by rwa [limitEq]) fewer
          refine ⟨.complete tuning.target true :: continuation,
            List.forall_mem_cons.mpr ⟨isHealthy_complete_target tuning, healthy⟩, ?_⟩
          rw [limitEq] at risen
          rwa [run_cons, Limiter.apply]

/-- With a limit of one and two or more in flight, one healthy completion raises the limit. So only
a stalled limiter is kept from rising. -/
theorem exists_rise_of_not_stalled (step : tuning.step ≠ 0) (bounds : WithinBounds tuning state)
    (going : ¬ IsStalled tuning state) (below : state.limit.toNat < tuning.ceiling.toNat) :
    ∃ continuation : List Operation, (∀ operation ∈ continuation, operation.IsHealthy tuning)
      ∧ state.limit.toNat < (state.run tuning continuation).limit.toNat := by
  have positive := bounds.one_le_limit
  by_cases two : 2 ≤ state.limit.toNat
  · exact exists_rise step two below
  · have crowded : 2 ≤ state.inflight.toNat := by
      by_contra few
      exact going ⟨by omega, by omega, by omega⟩
    have few := bounds.inflight_le_three (by omega)
    refine ⟨[.complete tuning.target true],
      List.forall_mem_singleton.mpr (isHealthy_complete_target tuning), ?_⟩
    rw [run_singleton, Limiter.apply, complete_limit_of_atMost _ tuning.atMost_target_self,
      if_pos (by omega)]
    exact Tuning.lt_raised step below

/-- A limiter that is not stalled can be brought back to its ceiling. -/
theorem exists_recovery (step : tuning.step ≠ 0) (factor : Settings.isDecrease tuning.decrease)
    (bounds : WithinBounds tuning state) (going : ¬ IsStalled tuning state) :
    ∃ continuation : List Operation, (∀ operation ∈ continuation, operation.IsHealthy tuning)
      ∧ (state.run tuning continuation).limit = tuning.ceiling := by
  induction missing : tuning.ceiling.toNat - state.limit.toNat using Nat.strongRecOn
    generalizing state with
  | ind missing inductionHypothesis =>
      by_cases below : state.limit.toNat < tuning.ceiling.toNat
      · obtain ⟨rise, riseHealthy, risen⟩ := exists_rise_of_not_stalled step bounds going below
        have positive := bounds.one_le_limit
        have risenGoing : ¬ IsStalled tuning (state.run tuning rise) := by
          intro stalled
          have limitEq := stalled.limit_eq
          omega
        obtain ⟨rest, restHealthy, recovered⟩ :=
          inductionHypothesis (tuning.ceiling.toNat - (state.run tuning rise).limit.toNat)
            (by omega) (bounds.run factor rise) risenGoing rfl
        refine ⟨rise ++ rest, List.forall_mem_append.mpr ⟨riseHealthy, restHealthy⟩, ?_⟩
        rwa [run_append]
      · refine ⟨[], by simp, UInt32.toNat_inj.mp ?_⟩
        exact Nat.le_antisymm bounds.le_ceiling (Nat.not_lt.mp below)

end Limiter

end AdmissionControl
