import AdmissionControl.Proofs.Limiter.Overtaking

/-!
# Backing off

A slow sample lowers every limit above the floor, however near the factor is to one: the product is
rounded, but never back to the limit itself. So a run that shows the limiter no healthy latency
brings the limit down by at least one with each slow sample, until the floor stops it. As many slow
samples as there are limits between floor and ceiling are always enough, and from then on the limit
stays at the floor as long as no healthy sample comes.
-/

namespace AdmissionControl

namespace Limiter

variable {tuning : Tuning} {state : Limiter}

/-- Whether a use shows the limiter a latency past its target. -/
def Operation.isSlow (tuning : Tuning) (operation : Operation) : Bool :=
  operation.sample?.any tuning.target.lessThan

theorem Operation.isSlow_sampled (tuning : Tuning) (latency : Binary64) :
    (complete latency true).isSlow tuning = tuning.target.lessThan latency := by
  rw [isSlow, sample?, Option.any_some]

/-- A use that shows no healthy latency: every latency that it shows is past the target. -/
def Operation.NeverHealthy (tuning : Tuning) (operation : Operation) : Prop :=
  ∀ latency, operation.sample? = some latency → tuning.target.lessThan latency = true

theorem Operation.neverHealthy_of_slow {latency : Binary64}
    (slow : tuning.target.lessThan latency = true) : (complete latency true).NeverHealthy tuning := by
  rintro _ ⟨⟩
  exact slow

theorem Operation.neverHealthy_of_unsampled {operation : Operation}
    (unsampled : operation.sample? = none) : operation.NeverHealthy tuning := by
  intro latency shown
  rw [unsampled] at shown
  cases shown

/-- How many slow samples a run shows. -/
def slowSamples (tuning : Tuning) (operations : List Operation) : Nat :=
  operations.countP (Operation.isSlow tuning)

theorem slowSamples_cons (tuning : Tuning) (operation : Operation) (rest : List Operation) :
    slowSamples tuning (operation :: rest)
      = slowSamples tuning rest + (operation.isSlow tuning).toNat := by
  rw [slowSamples, List.countP_cons, slowSamples]
  cases operation.isSlow tuning <;> rfl

/-- At the floor a slow sample changes no limit. -/
theorem WithinBounds.reduced_eq_floor (bounds : WithinBounds tuning state)
    (factor : Settings.isDecrease tuning.decrease) (atFloor : state.limit = tuning.floor) :
    tuning.reduced state.limit = tuning.floor := by
  have notAbove := bounds.reduced_le factor
  have notBelow := Tuning.floor_le_reduced tuning state.limit
  rw [atFloor] at notAbove notBelow ⊢
  exact UInt32.toNat_inj.mp (Nat.le_antisymm notAbove notBelow)

/-- Above the floor it lowers the limit. -/
theorem WithinBounds.reduced_lt_of_ne (bounds : WithinBounds tuning state)
    (factor : Settings.isDecrease tuning.decrease) (aboveFloor : state.limit ≠ tuning.floor) :
    (tuning.reduced state.limit).toNat < state.limit.toNat := by
  have different : tuning.floor.toNat ≠ state.limit.toNat :=
    fun same => aboveFloor (UInt32.toNat_inj.mp same).symm
  exact Tuning.reduced_lt factor (Nat.lt_of_le_of_ne bounds.floor_le different)

/-- One use without a healthy sample: a slow sample takes at least one off the limit, unless the
floor stops it, and no other such use raises it. -/
theorem WithinBounds.apply_limit_le (bounds : WithinBounds tuning state)
    (factor : Settings.isDecrease tuning.decrease) {operation : Operation}
    (neverHealthy : operation.NeverHealthy tuning) :
    (state.apply tuning operation).limit.toNat
      ≤ max tuning.floor.toNat (state.limit.toNat - (operation.isSlow tuning).toNat) := by
  have unchanged : state.limit.toNat ≤ max tuning.floor.toNat (state.limit.toNat - 0) :=
    Nat.le_max_right _ _
  cases operation with
  | read => exact unchanged
  | acquire => rwa [Limiter.apply, acquire_limit]
  | complete latency sampled =>
      cases sampled with
      | false => exact unchanged
      | true =>
          have slow := neverHealthy latency rfl
          rw [Limiter.apply, complete_limit_of_slow tuning state slow, Operation.isSlow_sampled, slow,
            Bool.toNat_true]
          by_cases atFloor : state.limit = tuning.floor
          · rw [bounds.reduced_eq_floor factor atFloor]
            exact Nat.le_max_left _ _
          · have lower := bounds.reduced_lt_of_ne factor atFloor
            omega

/-- A run without a healthy sample takes the limit down by the number of its slow samples, unless
the floor stops it. -/
theorem WithinBounds.run_limit_le (bounds : WithinBounds tuning state)
    (factor : Settings.isDecrease tuning.decrease) {operations : List Operation}
    (neverHealthy : ∀ operation ∈ operations, operation.NeverHealthy tuning) :
    (state.run tuning operations).limit.toNat
      ≤ max tuning.floor.toNat (state.limit.toNat - slowSamples tuning operations) := by
  induction operations generalizing state with
  | nil => exact Nat.le_max_right _ _
  | cons operation rest inductionHypothesis =>
      obtain ⟨first, later⟩ := List.forall_mem_cons.mp neverHealthy
      have afterFirst := bounds.apply_limit_le factor first
      have afterRest := inductionHypothesis (bounds.apply factor operation) later
      rw [run_cons, slowSamples_cons]
      omega

/-- Enough slow samples bring the limit to the floor. -/
theorem WithinBounds.run_limit_eq_floor (bounds : WithinBounds tuning state)
    (factor : Settings.isDecrease tuning.decrease) {operations : List Operation}
    (neverHealthy : ∀ operation ∈ operations, operation.NeverHealthy tuning)
    (enough : state.limit.toNat ≤ tuning.floor.toNat + slowSamples tuning operations) :
    (state.run tuning operations).limit = tuning.floor := by
  have notAbove := bounds.run_limit_le factor neverHealthy
  have notBelow := (bounds.run factor operations).floor_le
  refine UInt32.toNat_inj.mp (Nat.le_antisymm ?_ notBelow)
  omega

/-- Slow samples in a row, as many as there are limits above the floor, bring the limit there. -/
theorem WithinBounds.run_replicate_slow (bounds : WithinBounds tuning state)
    (factor : Settings.isDecrease tuning.decrease) {latency : Binary64}
    (slow : tuning.target.lessThan latency = true) {count : Nat}
    (enough : state.limit.toNat ≤ tuning.floor.toNat + count) :
    (state.run tuning (List.replicate count (.complete latency true))).limit = tuning.floor := by
  have samples :
      slowSamples tuning (List.replicate count (.complete latency true)) = count := by
    rw [slowSamples, List.countP_replicate, Operation.isSlow_sampled, if_pos slow]
  refine bounds.run_limit_eq_floor factor ?_ (by rwa [samples])
  exact List.forall_mem_replicate.mpr (.inr (Operation.neverHealthy_of_slow slow))

/-- Back-off makes progress. At every point of every run, a slow sample keeps a limit that is at the
floor, lowers every other one, and never takes it below the floor. Any run from there that shows no
healthy latency and as many slow ones as there are limits between floor and ceiling, whatever
attempts and unsampled completions stand among them, ends with the limit at the floor, and every
continuation without a healthy sample leaves it there. -/
theorem slow_samples_reach_floor (tuning : Tuning) (factor : Settings.isDecrease tuning.decrease)
    (history : List Operation) :
    let state := (fresh tuning).run tuning history
    (∀ latency : Binary64, tuning.target.lessThan latency = true →
      let next := state.complete tuning latency true
      (state.limit = tuning.floor → next.limit = tuning.floor)
        ∧ (state.limit ≠ tuning.floor → next.limit < state.limit)
        ∧ tuning.floor ≤ next.limit)
    ∧ ∀ operations : List Operation,
        (∀ operation ∈ operations, operation.NeverHealthy tuning) →
        tuning.ceiling.toNat - tuning.floor.toNat ≤ slowSamples tuning operations →
        (state.run tuning operations).limit = tuning.floor
          ∧ ∀ continuation : List Operation,
              (∀ operation ∈ continuation, operation.NeverHealthy tuning) →
              ((state.run tuning operations).run tuning continuation).limit = tuning.floor := by
  intro state
  have bounds : WithinBounds tuning state := (fresh_withinBounds tuning).run factor history
  refine ⟨fun latency slow => ?_, fun operations neverHealthy enough => ?_⟩
  · simp only [complete_limit_of_slow tuning state slow, UInt32.lt_iff_toNat_lt, UInt32.le_iff_toNat_le]
    exact ⟨bounds.reduced_eq_floor factor, bounds.reduced_lt_of_ne factor,
      Tuning.floor_le_reduced tuning state.limit⟩
  · have leCeiling := bounds.le_ceiling
    have reached := bounds.run_limit_eq_floor factor neverHealthy (by omega)
    refine ⟨reached, fun continuation stillNeverHealthy => ?_⟩
    -- From the floor no slow sample is needed to be there at the end.
    refine (bounds.run factor operations).run_limit_eq_floor factor stillNeverHealthy ?_
    rw [reached]
    exact Nat.le_add_right _ _

/-- With the factor nearest to one, four slow samples are enough for a limiter of seven, and three
are not. -/
theorem slow_samples_reach_floor_of_seven :
    let tuning : Tuning := .slight 7
    let slow : Operation := .complete (.infinite false) true
    let operations : List Operation :=
      [slow, .acquire, slow, .complete .zero false, .read, slow, .acquire, slow]
    Settings.isDecrease tuning.decrease = true
      ∧ (∀ operation ∈ operations, operation.NeverHealthy tuning)
      ∧ tuning.floor = 3
      ∧ tuning.ceiling.toNat - tuning.floor.toNat = 4
      ∧ slowSamples tuning operations = 4
      ∧ ((fresh tuning).run tuning (operations.take 7)).limit = 4
      ∧ ((fresh tuning).run tuning operations).limit = tuning.floor := by
  intro tuning slow operations
  have factor : Settings.isDecrease tuning.decrease = true := Tuning.isDecrease_slight 7
  have neverHealthy : ∀ operation ∈ operations, operation.NeverHealthy tuning := by
    have ofSlow : slow.NeverHealthy tuning :=
      Operation.neverHealthy_of_slow tuning.target_lessThan_infinite
    have ofUnsampled {operation : Operation} (unsampled : operation.sample? = none) :
        operation.NeverHealthy tuning := Operation.neverHealthy_of_unsampled unsampled
    simp only [operations, List.forall_mem_cons]
    exact ⟨ofSlow, ofUnsampled rfl, ofSlow, ofUnsampled rfl, ofUnsampled rfl, ofSlow,
      ofUnsampled rfl, ofSlow, List.forall_mem_nil _⟩
  have samples : slowSamples tuning operations = 4 := by decide +kernel
  have distance : tuning.ceiling.toNat - tuning.floor.toNat = 4 := by decide +kernel
  have reached := ((slow_samples_reach_floor tuning factor []).2 operations neverHealthy
    (by omega)).1
  exact ⟨factor, neverHealthy, by decide +kernel, distance, samples, by decide +kernel, reached⟩

end Limiter

end AdmissionControl
