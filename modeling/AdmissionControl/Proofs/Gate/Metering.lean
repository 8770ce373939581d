import AdmissionControl.Gate.Basic
import AdmissionControl.Proofs.Client.Calls

/-!
# A metered gate

A backend meters a gate when a limiter counts behind it: each question takes a slot as the limiter
decides, and each report gives one back. What the gate does for one request is then said by the two
moments at which it calls the backend.
-/

namespace AdmissionControl

open Wire

namespace Backend

/-- A backend behind which a limiter counts. While it is ready, asking takes a slot as the limiter
decides, and every report is delivered and gives one slot back. -/
structure Meters {σ : Type} (backend : Backend σ) (ready : σ → Prop) (limiter : σ → Limiter) :
    Prop where
  ask : ∀ {state : σ} (visitor : Visitor), ready state →
    (backend.ask state visitor).1 = .ofDecision (limiter state).acquire
      ∧ ready (backend.ask state visitor).2
      ∧ limiter (backend.ask state visitor).2 = (limiter state).acquire.state
  report : ∀ {state : σ} (completion : Completion), ready state →
    (backend.report state completion).1 = true
      ∧ ready (backend.report state completion).2
      ∧ (limiter (backend.report state completion).2).inflight = (limiter state).release.inflight

/-- A daemon that carries every request line meters the client that has it for itself. -/
theorem daemon_meters {plan : Daemon.Plan}
    (enough : Request.longestLine ≤ plan.pool.service.lineLimit) :
    Meters (daemon plan) (Serving plan) (·.world.limiter) where
  ask visitor serving := serving.ask (Nat.le_trans (by decide) enough) visitor
  report completion serving := by
    obtain ⟨delivered, stillServing, limiterEq⟩ :=
      serving.report (Nat.le_trans (Request.length_encode_le completion.request) enough)
    exact ⟨delivered, stillServing, limiterEq ▸ Limiter.complete_inflight _ _ _ _⟩

end Backend

namespace Gate

variable {σ : Type} {plan : Plan} {backend : Backend σ} {ready : σ → Prop} {limiter : σ → Limiter}
variable {gate : Gate σ}

@[simp] theorem backend_record (gate : Gate σ) (event : Event) :
    (gate.record event).backend = gate.backend := rfl

@[simp] theorem backend_advance (gate : Gate σ) (nanoseconds : Nat) :
    (gate.advance nanoseconds).backend = gate.backend := rfl

@[simp] theorem backend_warn (gate : Gate σ) (warning : Warning) :
    (gate.warn plan warning).backend = gate.backend := by
  unfold warn
  dsimp only
  repeat' split
  all_goals rfl

@[simp] theorem backend_warnIf (gate : Gate σ) (cause : Bool) (warning : Warning) :
    (gate.warnIf plan cause warning).backend = gate.backend := by
  cases cause <;> simp [warnIf]

@[simp] theorem backend_classify (gate : Gate σ) (request : Http.Request) :
    (gate.classify plan request).2.backend = gate.backend := by
  unfold classify
  split <;> simp

@[simp] theorem backend_ask (gate : Gate σ) (request : Http.Request) :
    (gate.ask plan request).2.backend = gate.backend := backend_classify gate request

@[simp] theorem backend_depart (gate : Gate σ) (verdict : Verdict) (ending : HandlerEnd) :
    (gate.depart plan verdict ending).2.backend = gate.backend := by
  cases ending <;> simp [depart]

@[simp] theorem backend_judge (gate : Gate σ) (visitor : Visitor) (start : Nat) (sampled : Bool)
    (verdict : Verdict) :
    (gate.judge plan visitor start sampled verdict).2.backend = gate.backend := by
  unfold judge
  dsimp only
  split <;> simp

/-- A request goes on with its verdict, or is turned away on a rejection. -/
theorem judge_entry (plan : Plan) (gate : Gate σ) (visitor : Visitor) (start : Nat) (sampled : Bool)
    (verdict : Verdict) :
    match (gate.judge plan visitor start sampled verdict).1 with
    | .passed passage => passage.verdict = some verdict
    | .shed _ => verdict.admitted = false := by
  unfold judge
  by_cases goesOn : visitor = .authenticated ∨ verdict.admitted = true
  · simp only [if_pos goesOn]
  · simp only [if_neg goesOn]
    simpa using (not_or.mp goesOn).2

/-- A request that comes to the gate takes a slot exactly if its own attempt is granted, and goes on
with the answer to that attempt or is turned away on a rejection. -/
theorem enter_spec (meters : backend.Meters ready limiter) (enabled : plan.settings.enabled = true)
    (isReady : ready gate.backend) (request : Http.Request) :
    let decision := (limiter gate.backend).acquire
    ready (gate.enter plan backend request).2.backend
      ∧ limiter (gate.enter plan backend request).2.backend = decision.state
      ∧ match (gate.enter plan backend request).1 with
        | .passed passage => passage.verdict = some (.ofDecision decision)
        | .shed _ => decision.admitted = false := by
  intro decision
  obtain ⟨verdict, stillReady, limiterEq⟩ :=
    meters.ask (gate.ask plan request).1 isReady
  rw [enter, if_neg (by simp [enabled])]
  dsimp only
  rw [backend_ask, verdict, backend_judge]
  exact ⟨stillReady, limiterEq, judge_entry plan _ _ _ _ (.ofDecision decision)⟩

/-- The end of a handler whose request was answered by the limiter gives one slot back, however the
handler ended. -/
theorem leave_spec (plan : Plan) (meters : backend.Meters ready limiter)
    (isReady : ready gate.backend) {passage : Passage} (contacted : passage.verdict.any Verdict.contacted = true)
    (ending : HandlerEnd) :
    ready (gate.leave plan backend passage ending).2.backend
      ∧ (limiter (gate.leave plan backend passage ending).2.backend).inflight
        = (limiter gate.backend).release.inflight := by
  obtain ⟨verdict, given⟩ : ∃ verdict, passage.verdict = some verdict :=
    Option.isSome_iff_exists.mp (Option.isSome_of_any contacted)
  rw [given, Option.any_some] at contacted
  obtain ⟨_, stillReady, inflightEq⟩ := meters.report (gate.completion passage ending) isReady
  unfold leave
  rw [given]
  dsimp only
  rw [if_pos contacted]
  simp [report, stillReady, inflightEq]

end Gate

end AdmissionControl
