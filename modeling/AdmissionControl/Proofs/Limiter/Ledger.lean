import AdmissionControl.Proofs.Limiter.Invariant
import Mathlib.Order.Bounds.Basic

/-!
# The ledger of a run

What a run does to the slots is a list of entries: attempts that were granted or rejected,
completions, and readings. A completion with nothing in flight gives nothing back, and nothing later
makes up for it, so the number in flight is not the difference of granted attempts and completions
over the whole run but the greatest such difference over its suffixes. Latencies, samples and the
limit have a part in it only as far as they decide what the entries are.
-/

namespace AdmissionControl

namespace Limiter

/-- What one use comes to. -/
inductive Entry where
  | granted
  | rejected
  | completed
  | read
deriving DecidableEq

/-- The entry of one use. -/
def entry (state : Limiter) : Operation → Entry
  | .acquire => if state.acquire.admitted then .granted else .rejected
  | .complete _ _ => .completed
  | .read => .read

/-- The entries of a run, in order. -/
def ledger (tuning : Tuning) (state : Limiter) : List Operation → List Entry
  | [] => []
  | operation :: rest =>
      state.entry operation :: ledger tuning (state.apply tuning operation) rest

/-- Granted attempts less completions. -/
def balance (entries : List Entry) : Int := entries.count .granted - entries.count .completed

theorem balance_nil : balance [] = 0 := rfl

theorem balance_append (first second : List Entry) :
    balance (first ++ second) = balance first + balance second := by
  simp only [balance, List.count_append]
  omega

theorem balance_le_count_granted (entries : List Entry) :
    balance entries ≤ entries.count .granted := by
  unfold balance
  omega

theorem ledger_append (tuning : Tuning) (state : Limiter) (first second : List Operation) :
    state.ledger tuning (first ++ second)
      = state.ledger tuning first ++ (state.run tuning first).ledger tuning second := by
  induction first generalizing state with
  | nil => rfl
  | cons operation rest inductionHypothesis =>
      rw [List.cons_append, ledger, inductionHypothesis, ledger, List.cons_append]
      rfl

theorem ledger_concat (tuning : Tuning) (state : Limiter) (operations : List Operation)
    (operation : Operation) :
    state.ledger tuning (operations ++ [operation])
      = state.ledger tuning operations ++ [(state.run tuning operations).entry operation] := by
  rw [ledger_append]
  rfl

/-- One use changes the number in flight by the balance of its entry, stopping at zero. -/
theorem toNat_apply_inflight (tuning : Tuning) (state : Limiter) (operation : Operation) :
    ((state.apply tuning operation).inflight.toNat : Int)
      = max 0 (state.inflight.toNat + balance [state.entry operation]) := by
  cases operation with
  | read =>
      have unchanged : balance [state.entry .read] = 0 := rfl
      rw [unchanged, Limiter.apply]
      omega
  | complete latency sampled =>
      have returned : balance [state.entry (.complete latency sampled)] = -1 := rfl
      rw [returned, Limiter.apply, complete_inflight, toNat_release_inflight]
      omega
  | acquire =>
      have taken : balance [state.entry .acquire] = state.acquire.admitted.toNat := by
        rw [entry]
        cases state.acquire.admitted <;> rfl
      rw [taken, Limiter.apply, toNat_acquire_inflight_eq]
      omega

/-- The balances of all suffixes, the empty one and the whole included. -/
def suffixBalances (entries : List Entry) : Set Int :=
  {value | ∃ later : List Entry, later <:+ entries ∧ balance later = value}

/-- One more entry adds its balance to every suffix and makes a new empty one. -/
theorem isGreatest_suffixBalances_concat {entries : List Entry} {greatest : Int}
    (isGreatest : IsGreatest (suffixBalances entries) greatest) (last : Entry) :
    IsGreatest (suffixBalances (entries ++ [last])) (max 0 (greatest + balance [last])) := by
  obtain ⟨⟨best, isSuffix, balanceEq⟩, bounded⟩ := isGreatest
  constructor
  · rcases Int.le_total (greatest + balance [last]) 0 with negative | positive
    · rw [Int.max_eq_left negative]
      exact ⟨[], List.nil_suffix, balance_nil⟩
    · rw [Int.max_eq_right positive]
      refine ⟨best ++ [last], List.suffix_concat_iff.mpr (.inr ⟨best, rfl, isSuffix⟩), ?_⟩
      rw [balance_append, balanceEq]
  · rintro _ ⟨later, isLater, rfl⟩
    rcases List.suffix_concat_iff.mp isLater with rfl | ⟨shorter, rfl, isShorter⟩
    · exact Int.le_max_left _ _
    · have shorterLe : balance shorter ≤ greatest := bounded ⟨shorter, isShorter, rfl⟩
      rw [balance_append]
      omega

/-- The number in flight is the greatest balance of a suffix. -/
theorem isGreatest_inflight (tuning : Tuning) (operations : List Operation) :
    IsGreatest (suffixBalances ((fresh tuning).ledger tuning operations))
      ((fresh tuning).run tuning operations).inflight.toNat := by
  induction operations using List.reverseRecOn with
  | nil =>
      refine ⟨⟨[], List.nil_suffix, balance_nil⟩, ?_⟩
      rintro _ ⟨later, isLater, rfl⟩
      rw [List.suffix_nil.mp isLater]
      exact Int.le_refl 0
  | append_singleton operations operation inductionHypothesis =>
      have applied : (fresh tuning).run tuning (operations ++ [operation])
          = ((fresh tuning).run tuning operations).apply tuning operation :=
        run_append tuning (fresh tuning) operations [operation]
      rw [ledger_concat, applied, toNat_apply_inflight]
      exact isGreatest_suffixBalances_concat inductionHypothesis _

/-- In-flight accounting over whole runs, under any tuning. The number in flight lies between the
granted attempts less the completions and the granted attempts alone. It is the greatest difference
of the two over all suffixes of the run, and their difference over the whole run exactly if no
prefix has more completions than granted attempts. Runs with the same entries, under whatever
tunings and with whatever latencies, have the same number in flight. -/
theorem inflight_eq_greatest_balance (tuning : Tuning) (operations : List Operation) :
    let entries := (fresh tuning).ledger tuning operations
    let inflight := ((fresh tuning).run tuning operations).inflight
    ((entries.count .granted : Int) - entries.count .completed ≤ inflight.toNat
        ∧ inflight.toNat ≤ entries.count .granted)
      ∧ IsGreatest
          {value : Int | ∃ later : List Entry, later <:+ entries
            ∧ (later.count .granted : Int) - later.count .completed = value} inflight.toNat
      ∧ ((inflight.toNat : Int) = entries.count .granted - entries.count .completed
          ↔ ∀ earlier : List Entry, earlier <+: entries →
            earlier.count .completed ≤ earlier.count .granted)
      ∧ ∀ (other : Tuning) (others : List Operation), (fresh other).ledger other others = entries →
          ((fresh other).run other others).inflight = inflight := by
  intro entries inflight
  have isGreatest : IsGreatest (suffixBalances entries) inflight.toNat :=
    isGreatest_inflight tuning operations
  have ⟨⟨later, ⟨earlier, split⟩, inflightEq⟩, bounded⟩ := isGreatest
  have wholeLe : balance entries ≤ inflight.toNat := bounded ⟨entries, List.suffix_rfl, rfl⟩
  have divided : balance entries = balance earlier + balance later := by
    rw [← split, balance_append]
  refine ⟨⟨wholeLe, ?_⟩, isGreatest, ⟨fun whole front isPrefix => ?_, fun covered => ?_⟩,
    fun other others same => ?_⟩
  · have laterLe := balance_le_count_granted later
    have grantedEq : entries.count .granted = earlier.count .granted + later.count .granted := by
      rw [← split, List.count_append]
    omega
  · -- What follows a prefix cannot have a greater balance than the whole.
    obtain ⟨back, joined⟩ := isPrefix
    have backLe : balance back ≤ inflight.toNat := bounded ⟨back, ⟨front, joined⟩, rfl⟩
    have together : balance entries = balance front + balance back := by
      rw [← joined, balance_append]
    change (inflight.toNat : Int) = balance entries at whole
    have covered : 0 ≤ balance front := by omega
    unfold balance at covered
    omega
  · -- Nothing is lost before the suffix that attains the number in flight.
    have nothingLost : 0 ≤ balance earlier := by
      have enough := covered earlier ⟨later, split⟩
      unfold balance
      omega
    refine Int.le_antisymm ?_ wholeLe
    change (inflight.toNat : Int) ≤ balance entries
    omega
  · have otherGreatest := isGreatest_inflight other others
    rw [same] at otherGreatest
    exact UInt32.toNat_inj.mp (Int.ofNat_inj.mp (otherGreatest.unique isGreatest))

/-- Two early completions give nothing back: one is in flight although the whole run has a balance
of minus one. -/
example :
    let tuning : Tuning := { initialLimit := 4, targetMilliseconds := 300 }
    let early : Operation := .complete .zero true
    (fresh tuning).ledger tuning [early, early, .acquire] = [.completed, .completed, .granted]
      ∧ ((fresh tuning).run tuning [early, early, .acquire]).inflight = 1 := by
  decide +kernel

end Limiter

end AdmissionControl
