import AdmissionControl.Gate.Backend
import AdmissionControl.Proofs.Daemon.Calls
import AdmissionControl.Proofs.Wire.ReplyCodec

/-!
# Calls of a client

A call whose reply is one acceptable line returns what was accepted and leaves the connection open
with nothing unread. So a client that shares a daemon with nobody always finds it ready, and each of
its calls does to the daemon's limiter what the same call on the limiter would do.
-/

namespace AdmissionControl

open Wire

namespace Client

variable {σ κ α : Type}

/-- A call that finds one acceptable line as its reply succeeds and keeps the connection. -/
theorem settle_of_reply {transport : Transport σ κ} {connection : κ} {world : σ}
    {accept : List Char → Except Fault α} {reply : List Char} {result : α}
    (isLine : Text.IsLine reply) (accepted : accept (Text.trimEnd reply) = .ok result) :
    settle transport ⟨connection, []⟩ world (.received (Text.encode reply) false) accept
      = ⟨.returned result, ⟨some ⟨connection, []⟩⟩, world⟩ := by
  obtain ⟨bytes, eq, noFeed, _⟩ := isLine.exists_bytes
  have first : firstLine ([] ++ Text.encode reply) false
      = .returned (Text.encode reply, []) := by
    rw [List.nil_append, firstLine, eq, Text.cut?_append noFeed []]
  simp only [settle, first, Text.decode?_encode, accepted]

/-- A call that finds a line need not wait. -/
theorem isAnswered_of_isLine {connection : κ} {reply : List Char} (isLine : Text.IsLine reply) :
    isAnswered ⟨connection, []⟩ (.received (Text.encode reply) false) = true := by
  obtain ⟨bytes, eq, noFeed, _⟩ := isLine.exists_bytes
  rw [isAnswered, List.nil_append, eq, Text.cut?_append noFeed []]
  rfl

/-- An exchange whose reply is one acceptable line succeeds and keeps the connection. -/
theorem exchange_of_reply {transport : Transport σ κ} {connection : κ} {world after : σ}
    {request : Request} {accept : List Char → Except Fault α} {reply : List Char} {result : α}
    (sent : transport.send world connection (Text.encode request.encode)
      = (.received (Text.encode reply) false, after))
    (isLine : Text.IsLine reply) (accepted : accept (Text.trimEnd reply) = .ok result) :
    exchange transport ⟨connection, []⟩ world request accept
      = ⟨.returned result, ⟨some ⟨connection, []⟩⟩, after⟩ := by
  rw [exchange, sent]
  exact settle_of_reply isLine accepted

/-- The reply to an admission request is read as the limiter's decision. -/
theorem readVerdict_ofDecision (decision : Limiter.Decision) :
    readVerdict (Text.trimEnd (Reply.ofDecision decision)) = .ok (.ofDecision decision) := by
  rw [readVerdict, Text.trimEnd, AdmitReply.parse_dropEndWhile fun _ blank => blank,
    AdmitReply.parse_ofDecision]
  rfl

end Client

namespace Backend

variable {plan : Daemon.Plan} {state : Shared Daemon Nat}

/-- The daemon serves the connection of the shared client, if it has one, and no other. Nothing on
it is unread or unanswered. -/
structure Serving (plan : Daemon.Plan) (state : Shared Daemon Nat) : Prop where
  ready : state.world.IsReady plan
  queue : state.world.pool.queue = []
  alone :
    (state.client.link = none ∧ state.world.pool.serving = [])
      ∨ ∃ number : Nat, state.client.link = some ⟨number, []⟩
        ∧ state.world.pool.serving = [(number, {})]

/-- A daemon that has just been started serves a client that has made no call. -/
theorem serving_of_start {site : Site} {world : Daemon}
    (started : Daemon.start plan site = .bound world) : Serving plan { world } := by
  obtain ⟨ready, pool⟩ := Daemon.isReady_of_start started
  exact ⟨ready, by rw [pool]; rfl, .inl ⟨rfl, by rw [pool]; rfl⟩⟩

/-- A call finds or opens the one connection. -/
theorem Serving.ensureLink (serving : Serving plan state)
    (limit : plan.pool.service.lineLimit ≠ 0) :
    ∃ (number : Nat) (world : Daemon),
      state.client.ensureLink (Daemon.transport plan) state.world = some (⟨number, []⟩, world)
        ∧ world.IsReady plan
        ∧ world.pool.queue = []
        ∧ world.pool.serving = [(number, {})]
        ∧ world.limiter = state.world.limiter := by
  obtain ⟨ready, queue, ⟨noLink, idle⟩ | ⟨number, linked, served⟩⟩ := serving
  · have free : state.world.pool.serving.length < plan.pool.size := by
      rw [idle]
      exact plan.pool.size_pos
    have linked := congrArg (Option.map fun opened => (Client.Link.mk opened.1 [], opened.2))
      (Daemon.connect_of_free ready queue free limit)
    refine ⟨_, _, Eq.trans ?_ linked, ⟨ready.reachable, ready.waiting, ?_⟩, queue, ?_, rfl⟩
    · simp only [Client.ensureLink, noLink, Daemon.transport]
    · exact ⟨ready.settled.running, .inl queue⟩
    · simp [idle]
  · exact ⟨number, state.world, by simp [Client.ensureLink, linked], ready, queue, served, rfl⟩

/-- A call whose reply is acceptable returns, and does to the limiter what the request says. -/
theorem Serving.call {α : Type} (serving : Serving plan state) {request : Request}
    (fits : request.encode.length ≤ plan.pool.service.lineLimit)
    (accept : List Char → Except Fault α) {result : α} :
    let answer := request.received.serve plan.pool.service.tuning state.world.limiter
    let after := state.client.call (Daemon.transport plan) state.world request accept
    Text.IsLine answer.reply → accept (Text.trimEnd answer.reply) = .ok result →
    after.outcome = .returned result
      ∧ Serving plan ⟨after.client, after.world⟩
      ∧ after.world.limiter = answer.state := by
  intro answer after isLine accepted
  have limit : plan.pool.service.lineLimit ≠ 0 := by
    obtain ⟨bytes, _, _, length⟩ := request.isLine_encode.exists_bytes
    omega
  obtain ⟨number, world, linked, ready, queue, served, same⟩ := serving.ensureLink limit
  have alone : ∀ entry ∈ ([] ++ [] : List (Nat × Session)), entry.1 ≠ number := by simp
  have acted := Pool.act_request ready.settled served alone fits
  have sent : (Daemon.transport plan).send world number (Text.encode request.encode)
      = (.received (Text.encode answer.reply) false, _) :=
    same ▸ Daemon.exchange_request ready served alone fits
  have called : after
      = Client.exchange (Daemon.transport plan) ⟨number, []⟩ world request accept := by
    simp only [after, Client.call, linked]
  rw [called, Client.exchange_of_reply sent isLine accepted, acted]
  refine ⟨rfl, ⟨⟨ready.reachable, ready.waiting, ready.settled.running, ?_⟩, ?_, ?_⟩, ?_⟩
  · exact .inl queue
  · exact queue
  · exact .inr ⟨number, rfl, rfl⟩
  · simp only [answer, ← same]
    rfl

/-- Asking through the client is asking the limiter. -/
theorem Serving.ask (serving : Serving plan state)
    (fits : 16 ≤ plan.pool.service.lineLimit) (visitor : Visitor) :
    let after := (daemon plan).ask state visitor
    after.1 = .ofDecision state.world.limiter.acquire
      ∧ Serving plan after.2
      ∧ after.2.world.limiter = state.world.limiter.acquire.state := by
  have short : (Request.admission visitor).encode.length ≤ plan.pool.service.lineLimit :=
    Nat.le_trans (by cases visitor <;> decide) fits
  obtain ⟨returned, stillServing, limiterEq⟩ :=
    serving.call short Client.readVerdict (Reply.isLine_ofDecision _)
      (Client.readVerdict_ofDecision _)
  refine ⟨?_, stillServing, limiterEq⟩
  simp only [daemon, shared, Client.admission, Client.tryAdmission]
  rw [returned]
  rfl

/-- Reporting through the client completes an operation on the limiter, with the latency in whole
milliseconds. -/
theorem Serving.report (serving : Serving plan state) {completion : Completion}
    (fits : completion.request.encode.length ≤ plan.pool.service.lineLimit) :
    let after := (daemon plan).report state completion
    after.1 = true
      ∧ Serving plan after.2
      ∧ after.2.world.limiter
        = state.world.limiter.complete plan.pool.service.tuning
            (.ofNat (completion.latency.roundWithin Request.greatestLatency))
            completion.sampled := by
  obtain ⟨returned, stillServing, limiterEq⟩ :=
    serving.call fits Client.readReceipt Reply.isLine_acknowledgement rfl
  refine ⟨?_, stillServing, limiterEq⟩
  simp only [daemon, shared, Client.complete]
  rw [returned]
  rfl

end Backend

end AdmissionControl
