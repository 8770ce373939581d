import AdmissionControl.Daemon.Basic

/-!
# Backends

A backend is where the gate asks for admission and reports completions. Its state is a parameter, so
that the gate can stand before a limiter of its own process, before a daemon, or before answers that
are laid down in advance.
-/

namespace AdmissionControl

open Wire

/-- A source of verdicts whose state is `σ`. It does not fail: one that cannot be reached admits
without metering and drops reports. -/
structure Backend (σ : Type) where
  ask : σ → Visitor → Verdict × σ
  /-- Whether the report was delivered, and the state after it. -/
  report : σ → Completion → Bool × σ

namespace Backend

/-- A limiter of the same process. -/
def limiter (tuning : Limiter.Tuning) : Backend Limiter where
  ask state _ := (.ofDecision state.acquire, state.acquire.state)
  report state completion := (true, state.complete tuning completion.latency completion.sampled)

/-- Answers that are laid down in advance: every verdict, and whether reports are delivered. -/
structure Fixed where
  verdict : Verdict := .failOpen
  delivered : Bool := true
deriving DecidableEq

/-- The backend that gives fixed answers. -/
def fixed : Backend Fixed where
  ask answers _ := (answers.verdict, answers)
  report answers _ := (answers.delivered, answers)

/-- The result of a call; one that is given up failed open. -/
def resultOr {α : Type} (fallback : α) : Client.Outcome α → α
  | .returned result => result
  | _ => fallback

/-- A client that all requests share, and the world of its far end. -/
structure Shared (σ κ : Type) where
  client : Client κ := {}
  world : σ

/-- The backend behind a shared client. Calls wait for each other, so each is one exchange. -/
def shared {σ κ : Type} (transport : Transport σ κ) : Backend (Shared σ κ) where
  ask state visitor :=
    let after := state.client.admission transport state.world visitor
    (resultOr .failOpen after.outcome, ⟨after.client, after.world⟩)
  report state completion :=
    let after := state.client.complete transport state.world completion
    (resultOr false after.outcome, ⟨after.client, after.world⟩)

/-- The backend of a gate before a daemon. -/
def daemon (plan : Daemon.Plan) : Backend (Shared Daemon Nat) := shared (Daemon.transport plan)

end Backend

end AdmissionControl
