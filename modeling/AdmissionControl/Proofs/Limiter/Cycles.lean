import AdmissionControl.Proofs.Limiter.BackOff

/-!
# Saturate and complete

The usual way back to the ceiling repeats one cycle: attempts until one is rejected, then a healthy
completion. It succeeds as long as it does not come upon one of two kinds of state, which it then
never leaves: a limit of one, and a limit whose double leaves the 32-bit words.
-/

namespace AdmissionControl

namespace Limiter

variable {tuning : Tuning} {state : Limiter}

/-- Attempts until one is rejected. -/
def saturate (state : Limiter) : Limiter :=
  if state.acquire.admitted then state.acquire.state.saturate else state.acquire.state
termination_by state.limit.toNat - state.inflight.toNat
decreasing_by
  have room := (acquire_admitted_iff state).mp ‹_›
  rw [acquire_limit, toNat_acquire_inflight, if_pos room]
  omega

/-- Attempts until one is rejected, then one sampled completion. -/
def cycle (tuning : Tuning) (latency : Binary64) (state : Limiter) : Limiter :=
  state.saturate.complete tuning latency true

/-- One cycle for each latency. -/
def cycles (tuning : Tuning) (latencies : List Binary64) (state : Limiter) : Limiter :=
  latencies.foldl (fun state latency => state.cycle tuning latency) state

theorem cycles_cons (tuning : Tuning) (latency : Binary64) (rest : List Binary64)
    (state : Limiter) :
    state.cycles tuning (latency :: rest) = (state.cycle tuning latency).cycles tuning rest := by
  rw [cycles, List.foldl_cons, cycles]

theorem cycles_append (tuning : Tuning) (first second : List Binary64) (state : Limiter) :
    state.cycles tuning (first ++ second) = (state.cycles tuning first).cycles tuning second := by
  rw [cycles, List.foldl_append, cycles, cycles]

/-- From some number of healthy cycles on, the limit is the ceiling. -/
def RecoversByCycles (tuning : Tuning) (state : Limiter) : Prop :=
  ∃ count : Nat, ∀ latencies : List Binary64, count ≤ latencies.length →
    (∀ latency ∈ latencies, latency.atMost tuning.target = true) →
    (state.cycles tuning latencies).limit = tuning.ceiling

/-- The limit is below the ceiling, no more are in flight than it allows, and a full limit cannot be
seen to be in use: it is one, or its double leaves the 32-bit words. -/
structure CyclesStall (tuning : Tuning) (state : Limiter) : Prop where
  limit_ne : state.limit.toNat ≠ tuning.ceiling.toNat
  inflight_le : state.inflight.toNat ≤ state.limit.toNat
  unseen : state.limit.toNat = 1 ∨ 2 ^ 31 < state.limit.toNat

/-- Attempts until one is rejected fill the limit up, and change nothing else. -/
theorem saturate_spec (state : Limiter) :
    state.saturate.limit = state.limit
      ∧ state.saturate.inflight.toNat = max state.inflight.toNat state.limit.toNat := by
  induction state using saturate.induct with
  | case1 state admitted inductionHypothesis =>
      have room := (acquire_admitted_iff state).mp admitted
      rw [acquire_limit, toNat_acquire_inflight, if_pos room] at inductionHypothesis
      rw [saturate, if_pos admitted]
      refine ⟨inductionHypothesis.1, inductionHypothesis.2.trans ?_⟩
      omega
  | case2 state rejected =>
      have full := Nat.not_lt.mp (mt (acquire_admitted_iff state).mpr rejected)
      rw [saturate, if_neg rejected, acquire_state_of_full state full]
      exact ⟨rfl, (Nat.max_eq_left full).symm⟩

/-- What a healthy cycle does to the limit. -/
theorem cycle_limit {latency : Binary64} (within : latency.atMost tuning.target = true) :
    (state.cycle tuning latency).limit
      = if state.limit.toNat
            ≤ (max state.inflight.toNat state.limit.toNat - 1) * 2 % 2 ^ 32 then
          tuning.raised state.limit
        else state.limit := by
  obtain ⟨limitEq, inflightEq⟩ := saturate_spec state
  rw [cycle, complete_limit_of_atMost _ within, limitEq, inflightEq]

/-- Healthy cycles differ in nothing but the latency. -/
theorem cycle_eq_of_atMost {latency : Binary64} (within : latency.atMost tuning.target = true) :
    state.cycle tuning latency = state.cycle tuning tuning.target := by
  rw [cycle, cycle, complete_of_healthy _ _ (Binary64.lessThan_eq_false_of_atMost within),
    complete_of_healthy _ _ (Binary64.lessThan_eq_false_of_atMost tuning.atMost_target_self)]

/-- A cycle leaves one less in flight than there were or the limit allows. -/
theorem toNat_cycle_inflight (tuning : Tuning) (latency : Binary64) (state : Limiter) :
    (state.cycle tuning latency).inflight.toNat
      = max state.inflight.toNat state.limit.toNat - 1 := by
  rw [cycle, complete_inflight, toNat_release_inflight, (saturate_spec state).2]

theorem WithinBounds.saturate (bounds : WithinBounds tuning state) :
    WithinBounds tuning state.saturate := by
  obtain ⟨floorLe, leCeiling, inflightLe⟩ := bounds
  obtain ⟨limitEq, inflightEq⟩ := saturate_spec state
  refine ⟨by rwa [limitEq], by rwa [limitEq], ?_⟩
  rw [inflightEq]
  omega

theorem WithinBounds.cycle (bounds : WithinBounds tuning state)
    (factor : Settings.isDecrease tuning.decrease) (latency : Binary64) :
    WithinBounds tuning (state.cycle tuning latency) :=
  bounds.saturate.complete factor latency true

/-- Healthy cycles keep the bounds. -/
theorem WithinBounds.cycles (bounds : WithinBounds tuning state)
    (factor : Settings.isDecrease tuning.decrease) (latencies : List Binary64) :
    WithinBounds tuning (state.cycles tuning latencies) := by
  induction latencies generalizing state with
  | nil => exact bounds
  | cons latency rest inductionHypothesis =>
      rw [cycles_cons]
      exact inductionHypothesis (bounds.cycle factor latency)

/-- At the ceiling healthy cycles keep the limit there. -/
theorem cycles_limit_of_eq_ceiling {latencies : List Binary64}
    (within : ∀ latency ∈ latencies, latency.atMost tuning.target = true)
    (recovered : state.limit = tuning.ceiling) :
    (state.cycles tuning latencies).limit = tuning.ceiling := by
  induction latencies generalizing state with
  | nil => exact recovered
  | cons latency rest inductionHypothesis =>
      obtain ⟨first, later⟩ := List.forall_mem_cons.mp within
      rw [cycles_cons]
      refine inductionHypothesis later ?_
      rw [cycle_limit first, recovered]
      split
      · apply UInt32.toNat_inj.mp
        rw [Tuning.toNat_raised]
        omega
      · rfl

/-- Healthy cycles do not lead out of a state in which they stall. -/
theorem CyclesStall.cycles (stalled : CyclesStall tuning state) {latencies : List Binary64}
    (within : ∀ latency ∈ latencies, latency.atMost tuning.target = true) :
    CyclesStall tuning (state.cycles tuning latencies) := by
  induction latencies generalizing state with
  | nil => exact stalled
  | cons latency rest inductionHypothesis =>
      obtain ⟨first, later⟩ := List.forall_mem_cons.mp within
      obtain ⟨limitNe, inflightLe, unseen⟩ := stalled
      have limitBounded := state.limit.toNat_lt
      have limitEq : (state.cycle tuning latency).limit = state.limit := by
        rw [cycle_limit first, if_neg (by omega)]
      have inflightEq := toNat_cycle_inflight tuning latency state
      rw [cycles_cons]
      exact inductionHypothesis
        ⟨by rwa [limitEq], by rw [limitEq, inflightEq]; omega, by rwa [limitEq]⟩ later

/-- Nine tenths of the greatest limit still leave the words when doubled. -/
example :
    let tuning : Tuning := { initialLimit := .ofNat (2 ^ 32 - 1), targetMilliseconds := 300 }
    CyclesStall tuning ((fresh tuning).run tuning [.complete (.infinite false) true]) :=
  ⟨by decide +kernel, by decide +kernel, by decide +kernel⟩

/-- Where healthy cycles neither stall nor have come to the ceiling, the next raises the limit or,
with more in flight than the limit allows, leaves one less of these. -/
theorem cycle_progress (step : tuning.step ≠ 0) (bounds : WithinBounds tuning state)
    (below : state.limit.toNat < tuning.ceiling.toNat) (going : ¬ CyclesStall tuning state) :
    state.limit.toNat < (state.cycle tuning tuning.target).limit.toNat
      ∨ (state.cycle tuning tuning.target).limit.toNat = state.limit.toNat
        ∧ (state.cycle tuning tuning.target).inflight.toNat < state.inflight.toNat := by
  have positive := bounds.one_le_limit
  rw [cycle_limit tuning.atMost_target_self]
  split
  · exact .inl (Tuning.lt_raised step below)
  · next unseen =>
    refine .inr ⟨rfl, ?_⟩
    rw [toNat_cycle_inflight]
    by_cases crowded : state.limit.toNat < state.inflight.toNat
    · omega
    · exact absurd ⟨by omega, by omega, by omega⟩ going

/-- Where healthy cycles never stall, they come to the ceiling. -/
theorem recoversByCycles_of_not_stall (step : tuning.step ≠ 0)
    (factor : Settings.isDecrease tuning.decrease) (bounds : WithinBounds tuning state)
    (going : ∀ latencies : List Binary64,
      (∀ latency ∈ latencies, latency.atMost tuning.target = true) →
      ¬ CyclesStall tuning (state.cycles tuning latencies)) :
    RecoversByCycles tuning state := by
  induction remaining : (tuning.ceiling.toNat - state.limit.toNat) * 2 ^ 32 + state.inflight.toNat
    using Nat.strongRecOn generalizing state with
  | ind remaining inductionHypothesis =>
      by_cases recovered : state.limit = tuning.ceiling
      · exact ⟨0, fun latencies _ within => cycles_limit_of_eq_ceiling within recovered⟩
      · have limitNe : state.limit.toNat ≠ tuning.ceiling.toNat :=
          fun eq => recovered (UInt32.toNat_inj.mp eq)
        have below := Nat.lt_of_le_of_ne bounds.le_ceiling limitNe
        have progress := cycle_progress step bounds below (going [] (List.forall_mem_nil _))
        have nextBounds := bounds.cycle factor tuning.target
        have nextLimit := nextBounds.le_ceiling
        have nextInflight := (state.cycle tuning tuning.target).inflight.toNat_lt
        have nextGoing (latencies : List Binary64)
            (within : ∀ latency ∈ latencies, latency.atMost tuning.target = true) :
            ¬ CyclesStall tuning ((state.cycle tuning tuning.target).cycles tuning latencies) := by
          rw [← cycles_cons]
          exact going _ (List.forall_mem_cons.mpr ⟨tuning.atMost_target_self, within⟩)
        obtain ⟨count, recovery⟩ := inductionHypothesis
          ((tuning.ceiling.toNat - (state.cycle tuning tuning.target).limit.toNat) * 2 ^ 32
            + (state.cycle tuning tuning.target).inflight.toNat)
          (by omega) nextBounds nextGoing rfl
        refine ⟨count + 1, fun latencies enough within => ?_⟩
        cases latencies with
        | nil => simp at enough
        | cons latency rest =>
            obtain ⟨first, later⟩ := List.forall_mem_cons.mp within
            rw [cycles_cons, cycle_eq_of_atMost first]
            exact recovery rest (Nat.le_of_succ_le_succ enough) later

/-- Healthy cycles come to the ceiling exactly where they never stall. -/
theorem recoversByCycles_iff (step : tuning.step ≠ 0)
    (factor : Settings.isDecrease tuning.decrease) (bounds : WithinBounds tuning state) :
    RecoversByCycles tuning state ↔
      ∀ latencies : List Binary64,
        (∀ latency ∈ latencies, latency.atMost tuning.target = true) →
        ¬ CyclesStall tuning (state.cycles tuning latencies) := by
  refine ⟨?_, recoversByCycles_of_not_stall step factor bounds⟩
  rintro ⟨count, recovery⟩ latencies within stalled
  have endless : ∀ latency ∈ List.replicate count tuning.target,
      latency.atMost tuning.target = true :=
    List.forall_mem_replicate.mpr (.inr tuning.atMost_target_self)
  have later := (stalled.cycles endless).limit_ne
  rw [← cycles_append] at later
  refine later (congrArg UInt32.toNat (recovery _ (by simp) ?_))
  exact List.forall_mem_append.mpr ⟨within, endless⟩

theorem IsStalled.cyclesStall (stalled : IsStalled tuning state) : CyclesStall tuning state where
  limit_ne := stalled.limit_eq ▸ stalled.ceiling_ne.symm
  inflight_le := stalled.limit_eq ▸ stalled.inflight_le
  unseen := .inl stalled.limit_eq

/-- Below `2 ^ 31` no double leaves the words. -/
theorem CyclesStall.isStalled (stalled : CyclesStall tuning state)
    (bounds : WithinBounds tuning state) (small : tuning.ceiling.toNat ≤ 2 ^ 31) :
    IsStalled tuning state := by
  obtain ⟨limitNe, inflightLe, unseen⟩ := stalled
  have leCeiling := bounds.le_ceiling
  exact ⟨by omega, by omega, by omega⟩

/-- Healthy cycles stall a limiter only if it is stalled before them. -/
theorem isStalled_of_cycles (step : tuning.step ≠ 0)
    (factor : Settings.isDecrease tuning.decrease) (bounds : WithinBounds tuning state)
    {latencies : List Binary64}
    (within : ∀ latency ∈ latencies, latency.atMost tuning.target = true)
    (stalled : IsStalled tuning (state.cycles tuning latencies)) : IsStalled tuning state := by
  induction latencies generalizing state with
  | nil => exact stalled
  | cons latency rest inductionHypothesis =>
      obtain ⟨first, later⟩ := List.forall_mem_cons.mp within
      rw [cycles_cons] at stalled
      obtain ⟨ceilingNe, limitEq, _⟩ :=
        inductionHypothesis (bounds.cycle factor latency) later stalled
      have positive := bounds.one_le_limit
      rw [cycle_limit first] at limitEq
      split at limitEq
      · have stepPositive : tuning.step.toNat ≠ 0 := fun zero => step (UInt32.toNat_inj.mp zero)
        have leCeiling := bounds.le_ceiling
        rw [Tuning.toNat_raised] at limitEq
        omega
      · next unseen =>
        have few := bounds.inflight_le_three (Nat.le_of_eq limitEq)
        rw [Nat.mod_eq_of_lt (by omega)] at unseen
        exact ⟨ceilingNe, limitEq, by omega⟩

/-- A stalled state can be reached exactly below ceilings of two and three. -/
theorem forall_run_fresh_not_isStalled_iff (factor : Settings.isDecrease tuning.decrease) :
    (∀ history : List Operation, ¬ IsStalled tuning ((fresh tuning).run tuning history)) ↔
      tuning.initialLimit.toNat ≠ 2 ∧ tuning.initialLimit.toNat ≠ 3 := by
  have ceilingEq := tuning.toNat_ceiling
  constructor
  · intro going
    by_contra low
    have floorEq := tuning.toNat_floor
    -- Two slow samples in a row take the limit to the floor, which is one.
    let slow : Operation := .complete (.infinite false) true
    have bounds := fresh_withinBounds tuning
    have limitEq : ((fresh tuning).run tuning (List.replicate 2 slow)).limit = tuning.floor :=
      bounds.run_replicate_slow factor tuning.target_lessThan_infinite
        (by rw [fresh_limit]; omega)
    have inflightEq : ((fresh tuning).run tuning (List.replicate 2 slow)).inflight.toNat = 0 := by
      change ((fresh tuning).run tuning [slow, slow]).inflight.toNat = 0
      rw [run_cons, run_singleton, Limiter.apply, Limiter.apply, complete_inflight,
        toNat_release_inflight, complete_inflight, toNat_release_inflight, fresh_inflight]
      rfl
    exact going (List.replicate 2 slow) ⟨by omega, by rw [limitEq]; omega, by omega⟩
  · intro high history stalled
    obtain ⟨ceilingNe, limitEq, _⟩ := stalled
    have floorLe := ((fresh_withinBounds tuning).run factor history).floor_le
    rw [Tuning.toNat_floor] at floorLe
    omega

/-- When a limiter recovers. At every point of every run healthy uses can bring the limit back to
the ceiling exactly when the limiter is not stalled, and no use at all helps a stalled one. Cycles
of saturation and a healthy completion do so exactly when they never stall, which up to ceilings of
`2 ^ 31` is the same. Of all initial limits, two and three let a limiter stall. -/
theorem recovers_iff_not_stalled (tuning : Tuning) (step : tuning.step ≠ 0)
    (factor : Settings.isDecrease tuning.decrease) :
    (∀ history : List Operation,
      let state := (fresh tuning).run tuning history
      ((∃ continuation : List Operation,
          (∀ operation ∈ continuation, operation.IsHealthy tuning)
            ∧ (state.run tuning continuation).limit = tuning.ceiling) ↔
        ¬ IsStalled tuning state)
      ∧ (IsStalled tuning state → ∀ continuation : List Operation,
          (state.run tuning continuation).limit = 1)
      ∧ (RecoversByCycles tuning state ↔ ∀ latencies : List Binary64,
          (∀ latency ∈ latencies, latency.atMost tuning.target = true) →
          ¬ CyclesStall tuning (state.cycles tuning latencies))
      ∧ (tuning.ceiling.toNat ≤ 2 ^ 31 →
          (RecoversByCycles tuning state ↔ ¬ IsStalled tuning state)))
    ∧ ((∀ history : List Operation, ¬ IsStalled tuning ((fresh tuning).run tuning history)) ↔
        tuning.initialLimit.toNat ≠ 2 ∧ tuning.initialLimit.toNat ≠ 3) := by
  refine ⟨fun history => ?_, forall_run_fresh_not_isStalled_iff factor⟩
  intro state
  have bounds : WithinBounds tuning state := (fresh_withinBounds tuning).run factor history
  have byCycles := recoversByCycles_iff step factor bounds
  refine ⟨⟨?_, exists_recovery step factor bounds⟩, ?_, byCycles, fun small => ?_⟩
  · rintro ⟨continuation, _, recovered⟩ stalled
    exact stalled.run_limit_ne bounds factor continuation recovered
  · intro stalled continuation
    exact UInt32.toNat_inj.mp (stalled.run bounds factor continuation).limit_eq
  · rw [byCycles]
    constructor
    · intro going stalled
      exact going [] (List.forall_mem_nil _) stalled.cyclesStall
    · intro going latencies within stalled
      have lateStalled := stalled.isStalled (bounds.cycles factor latencies) small
      exact going (isStalled_of_cycles step factor bounds within lateStalled)

/-- A limiter of four, cut to its floor of two by slow samples, can be brought back to four. -/
theorem recovers_iff_not_stalled_above_three :
    let tuning : Tuning := { initialLimit := 4, targetMilliseconds := 300 }
    let slow : Operation := .complete (.infinite false) true
    let state := (fresh tuning).run tuning [.acquire, slow, slow, slow]
    tuning.step ≠ 0
      ∧ Settings.isDecrease tuning.decrease = true
      ∧ state = ⟨2, 0, true⟩
      ∧ RecoversByCycles tuning state := by
  refine ⟨by decide, by decide +kernel, by decide +kernel, ?_⟩
  refine (((recovers_iff_not_stalled _ (by decide) (by decide +kernel)).1 _).2.2.2
    (by decide +kernel)).mpr fun stalled => ?_
  exact absurd stalled.limit_eq (by decide +kernel)

/-- A limiter of two stays at one after its first slow sample, whatever healthy uses follow. -/
theorem run_two_slow_never_recovers :
    let tuning : Tuning := { initialLimit := 2, targetMilliseconds := 300 }
    let state := (fresh tuning).run tuning [.complete (.infinite false) true]
    1 ≤ tuning.initialLimit
      ∧ tuning.step ≠ 0
      ∧ Settings.isDecrease tuning.decrease = true
      ∧ ¬ ∃ continuation : List Operation,
          (∀ operation ∈ continuation, operation.IsHealthy tuning)
            ∧ (state.run tuning continuation).limit = tuning.ceiling := by
  intro tuning state
  have factor : Settings.isDecrease tuning.decrease = true := by decide +kernel
  have bounds : WithinBounds tuning state := (fresh_withinBounds tuning).run factor _
  have stalled : IsStalled tuning state :=
    ⟨by decide +kernel, by decide +kernel, by decide +kernel⟩
  refine ⟨by decide, by decide, factor, ?_⟩
  rintro ⟨continuation, _, recovered⟩
  exact stalled.run_limit_ne bounds factor continuation recovered

end Limiter

end AdmissionControl
