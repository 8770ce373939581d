import AdmissionControl.Proofs.Binary64.Whole
import AdmissionControl.Proofs.Client.RoundTrips
import AdmissionControl.Proofs.Client.Calls
import AdmissionControl.Proofs.Daemon.Order

/-!
# Calling a daemon is using its limiter

While workers hold the connections of its clients, a daemon is as good as its limiter: every call
returns what the same use of the limiter would have returned, and does nothing else to it. Only the
latency of a completion changes on its way, to the whole number that it is written as.
-/

namespace AdmissionControl

open Wire

namespace Client.Errand

/-- What a call does to the limiter. -/
def operation : Errand → Limiter.Operation
  | .tryAdmission _ => .acquire
  | .admission _ => .acquire
  | .complete completion => .complete completion.latency.carried completion.sampled
  | .stats => .read

/-- What a call says of the limiter that it finds. -/
def result (limiter : Limiter) : Errand → Result
  | .tryAdmission _ => .verdict (.ofDecision limiter.acquire)
  | .admission _ => .verdict (.ofDecision limiter.acquire)
  | .complete _ => .receipt true
  | .stats => .state limiter

variable (errand : Errand) (tuning : Limiter.Tuning) (limiter : Limiter)

theorem serve_state :
    (errand.request.received.serve tuning limiter).state
      = limiter.apply tuning errand.operation := by
  cases errand with
  | tryAdmission visitor => rfl
  | admission visitor => rfl
  | stats => rfl
  | complete completion =>
      change limiter.complete tuning
          (.ofNat (completion.latency.roundWithin Request.greatestLatency)) completion.sampled
        = limiter.complete tuning completion.latency.carried completion.sampled
      rw [Binary64.ofNat_roundWithin]

theorem isLine_serve : Text.IsLine (errand.request.received.serve tuning limiter).reply := by
  cases errand with
  | tryAdmission visitor => exact Reply.isLine_ofDecision _
  | admission visitor => exact Reply.isLine_ofDecision _
  | stats => exact Reply.isLine_ofState _
  | complete completion => exact Reply.isLine_acknowledgement

/-- A call reads from the reply what the limiter has answered. -/
theorem accept_serve :
    errand.accept (Text.trimEnd (errand.request.received.serve tuning limiter).reply)
      = .ok (errand.result limiter) := by
  have verdict : (readVerdict (Text.trimEnd (Reply.ofDecision limiter.acquire))).map Result.verdict
      = .ok (.verdict (.ofDecision limiter.acquire)) := by
    rw [readVerdict_ofDecision]
    rfl
  cases errand with
  | tryAdmission visitor => exact verdict
  | admission visitor => exact verdict
  | complete completion => rfl
  | stats =>
      change (Reply.readState (Text.trimEnd (Reply.ofState limiter))).map Result.state = _
      rw [Reply.readState_ofState]
      rfl

end Client.Errand

namespace Daemon

variable {plan : Plan} {daemon : Daemon}

/-- A call of a client whose connection a worker holds. -/
theorem InOrder.carryOut (inOrder : daemon.InOrder plan)
    (enough : Request.longestLine ≤ plan.pool.service.lineLimit) {number : Nat}
    (held : (number, {}) ∈ daemon.pool.serving) (errand : Client.Errand) :
    errand.carryOut (transport plan) ⟨some ⟨number, []⟩⟩ daemon
      = ⟨.returned (errand.result daemon.limiter), ⟨some ⟨number, []⟩⟩,
          daemon.act plan number (.send (Text.encode errand.request.encode))⟩ := by
  obtain ⟨exchanged, _, _⟩ :=
    inOrder.exchange held (Nat.le_trans errand.request.length_encode_le enough)
  have sent : (transport plan).send daemon number (Text.encode errand.request.encode)
      = (.received (Text.encode (errand.request.received.serve _ daemon.limiter).reply) false, _) :=
    exchanged
  have called : Client.call (transport plan) ⟨some ⟨number, []⟩⟩ daemon errand.request errand.accept
      = ⟨.returned (errand.result daemon.limiter), ⟨some ⟨number, []⟩⟩,
          daemon.act plan number (.send (Text.encode errand.request.encode))⟩ :=
    Client.exchange_of_reply sent (errand.isLine_serve _ _) (errand.accept_serve _ _)
  rw [errand.carryOut_eq, called, errand.conclude_returned]

end Daemon

namespace Clientele

variable {plan : Daemon.Plan} {count : Nat}

/-- A daemon that runs and whose workers hold the connections of its clients, with nothing on
them. -/
structure Held (plan : Daemon.Plan) (clientele : Clientele count) : Prop where
  running : clientele.daemon.Running plan
  held : ∀ caller, ∃ number, clientele.clients caller = ⟨some ⟨number, []⟩⟩
    ∧ (number, {}) ∈ clientele.daemon.pool.serving

/-- A limiter and what was learned of it. -/
structure Use where
  limiter : Limiter
  outcomes : List (Client.Outcome Client.Result) := []
deriving DecidableEq

/-- Does the same with a limiter at hand. -/
def Deed.onLimiter (tuning : Limiter.Tuning) (use : Use) : Deed count → Use
  | .call _ errand =>
      ⟨use.limiter.apply tuning errand.operation,
        use.outcomes ++ [.returned (errand.result use.limiter)]⟩
  | .operate operation => { use with limiter := use.limiter.apply tuning operation }

/-- What the limiter of a daemon is, and what the clients have learned of it. -/
def use (clientele : Clientele count) : Use := ⟨clientele.daemon.limiter, clientele.outcomes⟩

/-- One deed. -/
theorem Held.perform {clientele : Clientele count} (held : clientele.Held plan)
    (enough : Request.longestLine ≤ plan.pool.service.lineLimit) (deed : Deed count) :
    let after := clientele.perform plan deed
    after.Held plan ∧ after.clients = clientele.clients
      ∧ after.use = deed.onLimiter plan.pool.service.tuning clientele.use := by
  cases deed with
  | operate operation =>
      exact ⟨⟨held.running.operate operation, held.held⟩, rfl, rfl⟩
  | call caller errand =>
      intro after
      obtain ⟨number, linked, served⟩ := held.held caller
      have inOrder := held.running.inOrder
      obtain ⟨_, limiter, serving⟩ :=
        inOrder.exchange served (Nat.le_trans errand.request.length_encode_le enough)
      have carried := inOrder.carryOut enough served errand
      have clients : after.clients = clientele.clients := by
        funext client
        simp only [after, Clientele.perform, linked, carried]
        split
        · next same => rw [same, linked]
        · rfl
      have daemon : after.daemon
          = clientele.daemon.act plan number (.send (Text.encode errand.request.encode)) := by
        simp only [after, Clientele.perform, linked, carried]
      have outcomes : after.outcomes
          = clientele.outcomes ++ [.returned (errand.result clientele.daemon.limiter)] := by
        simp only [after, Clientele.perform, linked, carried]
      refine ⟨⟨?_, ?_⟩, clients, ?_⟩
      · rw [daemon]
        exact held.running.act _ _
      · intro client
        obtain ⟨other, otherLinked, otherServed⟩ := held.held client
        refine ⟨other, by rw [clients, otherLinked], ?_⟩
        rw [daemon]
        exact (serving _).mpr otherServed
      · rw [use, daemon, outcomes, limiter, errand.serve_state]
        rfl

/-- Talking to a limiter over the wire is using it: the clients learn what the same deeds on the
limiter alone would tell, which is left as these would leave it, and they stay connected. -/
theorem use_run {clientele : Clientele count}
    (enough : Request.longestLine ≤ plan.pool.service.lineLimit)
    (held : clientele.Held plan) (deeds : List (Deed count)) :
    let after := clientele.run plan deeds
    after.use = deeds.foldl (Deed.onLimiter plan.pool.service.tuning) clientele.use
      ∧ after.clients = clientele.clients
      ∧ after.Held plan := by
  induction deeds generalizing clientele with
  | nil => exact ⟨rfl, rfl, held⟩
  | cons deed rest inductionHypothesis =>
      obtain ⟨stillHeld, clients, useEq⟩ := held.perform enough deed
      obtain ⟨laterUse, laterClients, later⟩ := inductionHypothesis stillHeld
      exact ⟨laterUse.trans (by rw [useEq]; rfl), laterClients.trans clients, later⟩

/-- Two clients of a daemon with the least line limit that carries every request. A latency that is
no number counts as none, and one without bound as slow. -/
theorem use_run_of_two :
    let plan : Daemon.Plan := ⟨⟨⟨⟨2, 50, 1, Limiter.usualDecrease⟩, 59⟩, 2⟩, 0⟩
    let bound : Daemon := .fresh plan { entry := .socket }
    let served (count : Nat) : Daemon :=
      { bound with
        pool :=
          { bound.pool with
            arrivals := count
            serving := (List.range count).map fun number => (number, {}) } }
    let clientele : Clientele 2 :=
      { daemon := served 2, clients := fun caller => ⟨some ⟨caller, []⟩⟩ }
    let after := clientele.run plan
      [.call 0 (.admission .anonymous), .call 1 (.tryAdmission .authenticated), .operate .acquire,
        .call 0 (.complete ⟨200, .nan, true⟩), .call 1 (.complete ⟨200, .infinite false, true⟩),
        .call 1 .stats]
    Request.longestLine ≤ plan.pool.service.lineLimit
      ∧ clientele.Held plan
      ∧ after.outcomes = [.returned (.verdict ⟨true, some 2, some 1, false, true⟩),
          .returned (.verdict ⟨true, some 2, some 2, false, true⟩), .returned (.receipt true),
          .returned (.receipt true), .returned (.state ⟨1, 0, true⟩)]
      ∧ ∀ caller, (after.clients caller).isConnected = true := by
  intro plan bound served clientele after
  have enough : Request.longestLine ≤ plan.pool.service.lineLimit := by decide
  have started : Daemon.start plan {} = .bound bound := by decide +kernel
  have first : bound.connect plan = some (0, served 1) := by decide +kernel
  have second : (served 1).connect plan = some (1, served 2) := by decide +kernel
  have held : clientele.Held plan := by
    refine ⟨.connect (.connect (.start started) first) second, fun caller => ?_⟩
    exact ⟨caller, rfl, List.mem_map.mpr ⟨caller, List.mem_range.mpr caller.isLt, rfl⟩⟩
  obtain ⟨use, clients, _⟩ := use_run enough held
    [.call 0 (.admission .anonymous), .call 1 (.tryAdmission .authenticated), .operate .acquire,
      .call 0 (.complete ⟨200, .nan, true⟩), .call 1 (.complete ⟨200, .infinite false, true⟩),
      .call 1 .stats]
  refine ⟨enough, held, ?_, fun caller => ?_⟩
  · refine (congrArg Use.outcomes use).trans ?_
    decide +kernel
  · rw [show after.clients = _ from clients]
    rfl

end Clientele

end AdmissionControl
