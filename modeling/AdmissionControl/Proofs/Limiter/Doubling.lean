import AdmissionControl.Proofs.Limiter.Recovery
import AdmissionControl.Proofs.Session.Carriage

/-!
# Doubling within the word

The saturation test doubles the number in flight in a 32-bit word. It does so right after a slot has
been given back, so that at most one less than the ceiling is doubled. Ceilings of up to `2 ^ 31`
leave room for that at every point of every run, and then the test and the growth behind it are those
of unbounded numbers. Every greater initial limit has a run that leaves the word.
-/

namespace AdmissionControl

namespace Limiter

variable {tuning : Tuning} {state : Limiter}

/-- A completion takes the branch in which the limit grows: it is sampled and not slow, and the
test, in words and after the slot has been given back, finds half of the limit in use. -/
def Grows (tuning : Tuning) (latency : Binary64) (sampled : Bool) (state : Limiter) : Prop :=
  sampled = true ∧ tuning.target.lessThan latency = false
    ∧ state.release.limit ≤ state.release.inflight * 2

/-- What the branch does. -/
theorem Grows.complete_eq {latency : Binary64} {sampled : Bool}
    (grows : Grows tuning latency sampled state) :
    state.complete tuning latency sampled
      = { state.release with limit := tuning.raised state.limit, degraded := false } := by
  obtain ⟨rfl, healthy, inUse⟩ := grows
  rw [complete, if_pos rfl, retune, if_neg (by simp [healthy]), if_pos inUse]
  rfl

/-- Outside of the branch only a slow sample changes the limit. -/
theorem complete_limit_of_not_grows {latency : Binary64} {sampled : Bool}
    (other : ¬ Grows tuning latency sampled state) :
    (state.complete tuning latency sampled).limit
      = if sampled && tuning.target.lessThan latency then tuning.reduced state.limit
        else state.limit := by
  cases sampled with
  | false => rfl
  | true =>
      cases slow : tuning.target.lessThan latency with
      | true =>
          rw [complete_of_slow tuning state slow]
          rfl
      | false =>
          have idle : ¬ state.release.limit ≤ state.release.inflight * 2 :=
            fun inUse => other ⟨rfl, slow, inUse⟩
          rw [complete, if_pos rfl, retune, if_neg (by simp [slow]), if_neg idle]
          rfl

/-- A granted attempt counts within the word, whatever the ceiling: the limit is a word itself. -/
theorem succ_inflight_lt_of_admitted (state : Limiter) (admitted : state.acquire.admitted = true) :
    state.inflight.toNat + 1 < 2 ^ 32 := by
  have room := (acquire_admitted_iff state).mp admitted
  have bounded := state.limit.toNat_lt
  omega

/-- With a ceiling of up to `2 ^ 31` the number that is doubled leaves room for it. -/
theorem WithinBounds.double_inflight_lt (bounds : WithinBounds tuning state)
    (room : tuning.ceiling.toNat ≤ 2 ^ 31) : state.release.inflight.toNat * 2 < 2 ^ 32 := by
  have inflightLe := bounds.inflight_le
  rw [toNat_release_inflight]
  omega

/-- A test that stays within the word is the test of unbounded numbers. -/
theorem grows_iff_of_double_lt {latency : Binary64} {sampled : Bool}
    (fits : state.release.inflight.toNat * 2 < 2 ^ 32) :
    Grows tuning latency sampled state ↔
      sampled = true ∧ tuning.target.lessThan latency = false
        ∧ state.limit.toNat ≤ state.release.inflight.toNat * 2 := by
  have two : UInt32.toNat 2 = 2 := rfl
  have doubled : (state.release.inflight * 2).toNat = state.release.inflight.toNat * 2 := by
    rw [UInt32.toNat_mul, two, Nat.mod_eq_of_lt fits]
  rw [Grows, UInt32.le_iff_toNat_le, doubled, release_limit]

/-- A fresh limiter grants as many attempts as its ceiling allows. -/
theorem run_fresh_full (tuning : Tuning) :
    let full := (fresh tuning).run tuning (List.replicate tuning.ceiling.toNat .acquire)
    full.limit = tuning.ceiling ∧ full.inflight.toNat = tuning.ceiling.toNat := by
  have room : (fresh tuning).inflight.toNat + tuning.ceiling.toNat ≤ (fresh tuning).limit.toNat :=
    Nat.le_of_eq (Nat.zero_add _)
  obtain ⟨limitEq, inflightEq⟩ := run_replicate_acquire tuning (fresh tuning) room
  exact ⟨limitEq, inflightEq.trans (Nat.zero_add _)⟩

/-- The limiter of acceptable settings has at most as many slots as there may be workers. -/
theorem ceiling_tuning_le_of_validate {settings : Settings} (accepted : settings.validate = .ok ()) :
    settings.tuning.ceiling.toNat ≤ Settings.greatestWorkers.toNat := by
  obtain ⟨_, workersLe, _⟩ := settings.validate_eq_ok_iff.mp accepted
  rw [UInt64.le_iff_toNat_le] at workersLe
  have greatest : Settings.greatestWorkers.toNat = 65536 := rfl
  have size : UInt32.size = 2 ^ 32 := rfl
  have initial : settings.tuning.initialLimit.toNat
      = min settings.workers.toNat (UInt32.size - 1) := by
    rw [Settings.tuning, UInt32.toNat_ofNat_of_lt' (by omega)]
  rw [Tuning.toNat_ceiling, initial]
  omega

/-- The boundary of the saturation test. With a factor in range and a ceiling of up to `2 ^ 31`, as
under all acceptable settings, every completion at every point of every run doubles the number in
flight within its word, and every granted attempt counts within it. The limit grows exactly when the
completion is sampled, not slow, and sees half of the limit in use, all in unbounded numbers, and
then by the step or to the ceiling; otherwise only a slow sample changes it. Every initial limit
above `2 ^ 31`, under any target, step and factor, has a run of attempts and completions that doubles
more than the word can hold. -/
theorem doubling_fits_up_to_half_word :
    (∀ tuning : Tuning, Settings.isDecrease tuning.decrease = true →
      tuning.ceiling.toNat ≤ 2 ^ 31 →
      ∀ (history : List Operation) (latency : Binary64) (sampled : Bool),
        let state := (fresh tuning).run tuning history
        let next := state.complete tuning latency sampled
        state.release.inflight.toNat * 2 < 2 ^ 32
          ∧ (state.acquire.admitted = true → state.inflight.toNat + 1 < 2 ^ 32)
          ∧ (Grows tuning latency sampled state ↔
              sampled = true ∧ tuning.target.lessThan latency = false
                ∧ state.limit.toNat ≤ state.release.inflight.toNat * 2)
          ∧ (Grows tuning latency sampled state →
              next = { state.release with limit := next.limit, degraded := false }
                ∧ next.limit.toNat
                    = min tuning.ceiling.toNat (state.limit.toNat + tuning.step.toNat))
          ∧ (¬ Grows tuning latency sampled state →
              next.limit = if sampled && tuning.target.lessThan latency then
                tuning.reduced state.limit else state.limit))
      ∧ (∀ settings : Settings, settings.validate = .ok () →
          Settings.isDecrease settings.tuning.decrease = true
            ∧ settings.tuning.ceiling.toNat ≤ 2 ^ 31)
      ∧ ∀ tuning : Tuning, 2 ^ 31 < tuning.initialLimit.toNat →
          ∃ (history : List Operation) (latency : Binary64),
            (∀ operation ∈ history, operation ≠ .read)
              ∧ tuning.target.lessThan latency = false
              ∧ 2 ^ 32 - 1 < ((fresh tuning).run tuning history).release.inflight.toNat * 2 := by
  refine ⟨fun tuning factor room history latency sampled => ?_, fun settings accepted => ?_,
    fun tuning large => ?_⟩
  · intro state next
    have bounds : WithinBounds tuning state := (fresh_withinBounds tuning).run factor history
    have fits := bounds.double_inflight_lt room
    refine ⟨fits, succ_inflight_lt_of_admitted state, grows_iff_of_double_lt fits, fun grows => ?_,
      complete_limit_of_not_grows⟩
    have grown : next = { state.release with limit := tuning.raised state.limit, degraded := false } :=
      grows.complete_eq
    rw [grown]
    exact ⟨rfl, Tuning.toNat_raised tuning state.limit⟩
  · obtain ⟨_, _, _, _, _, factor, _⟩ := settings.validate_eq_ok_iff.mp accepted
    exact ⟨factor, Nat.le_trans (ceiling_tuning_le_of_validate accepted) (by decide)⟩
  · refine ⟨List.replicate tuning.ceiling.toNat .acquire, .zero, ?_,
      tuning.target_lessThan_zero, ?_⟩
    · rw [List.forall_mem_replicate]
      exact .inr nofun
    · have ceilingEq := tuning.toNat_ceiling
      rw [toNat_release_inflight, (run_fresh_full tuning).2]
      omega

/-- A full limiter of `2 ^ 31` doubles `2 ^ 31 - 1` within the word and keeps its limit; one of
`2 ^ 31 + 1` doubles a number too great for it. -/
theorem doubling_fits_up_to_half_word_at_boundary :
    let largest : Tuning := { initialLimit := 2147483648, targetMilliseconds := 300 }
    let state := (fresh largest).run largest (List.replicate largest.ceiling.toNat .acquire)
    Settings.isDecrease largest.decrease = true
      ∧ largest.ceiling.toNat = 2 ^ 31
      ∧ state.release.inflight.toNat * 2 = 2 ^ 32 - 2
      ∧ Grows largest .zero true state
      ∧ (state.complete largest .zero true).limit.toNat = 2 ^ 31
      ∧ ∃ (history : List Operation) (latency : Binary64),
          let larger : Tuning := { initialLimit := 2147483649, targetMilliseconds := 300 }
          (∀ operation ∈ history, operation ≠ .read)
            ∧ larger.target.lessThan latency = false
            ∧ 2 ^ 32 - 1 < ((fresh larger).run larger history).release.inflight.toNat * 2 := by
  intro largest state
  have factor : Settings.isDecrease largest.decrease = true := by decide +kernel
  have ceilingEq : largest.ceiling.toNat = 2 ^ 31 := by decide +kernel
  have ofTuning := doubling_fits_up_to_half_word.1 largest factor (Nat.le_of_eq ceilingEq)
    (List.replicate largest.ceiling.toNat .acquire) .zero true
  have larger := doubling_fits_up_to_half_word.2.2
    { initialLimit := 2147483649, targetMilliseconds := 300 } (by decide)
  -- The run is left open from here on, so that nothing carries it out.
  obtain ⟨limitEq, inflightEq⟩ := run_fresh_full largest
  have healthy := largest.target_lessThan_zero
  subst state
  generalize (fresh largest).run largest (List.replicate largest.ceiling.toNat .acquire) = state
    at ofTuning limitEq inflightEq ⊢
  obtain ⟨_, _, growsIff, grown, _⟩ := ofTuning
  have limitValue : state.limit.toNat = 2 ^ 31 := by rw [limitEq, ceilingEq]
  have doubled : state.release.inflight.toNat * 2 = 2 ^ 32 - 2 := by
    rw [toNat_release_inflight, inflightEq, ceilingEq]
  have grows : Grows largest .zero true state :=
    growsIff.mpr ⟨rfl, healthy, by omega⟩
  refine ⟨factor, ceilingEq, doubled, grows, ?_, larger⟩
  rw [(grown grows).2, ceilingEq, limitValue]
  exact Nat.min_eq_left (Nat.le_add_right _ _)

end Limiter

end AdmissionControl
