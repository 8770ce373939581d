import AdmissionControl.Proofs.Client.Calls

/-!
# A connection among others

A daemon with a worker to spare serves one connection of its own accord while nothing happens on the
others. The connection can be opened, used for requests and given up again and again, and the
limiter sees the requests alone.
-/

namespace AdmissionControl

open Wire

/-- Connections behind which a limiter counts, one at a time. While the far end attends to the one
there is, every request on it is carried out and answered. -/
structure Transport.Meters {σ κ : Type} (transport : Transport σ κ)
    (attends : σ → Option κ → Prop) (limiter : σ → Limiter) : Prop where
  connect : ∀ {world : σ}, attends world none →
    ∃ connection opened, transport.connect world = some (connection, opened)
      ∧ attends opened (some connection) ∧ limiter opened = limiter world
  ask : ∀ {world : σ} {connection : κ} (visitor : Visitor), attends world (some connection) →
    ∃ after, transport.send world connection (Text.encode (Request.admission visitor).encode)
        = (.received (Text.encode (Reply.ofDecision (limiter world).acquire)) false, after)
      ∧ attends after (some connection) ∧ limiter after = (limiter world).acquire.state
  report : ∀ {world : σ} {connection : κ} (completion : Completion),
    attends world (some connection) →
    ∃ after, transport.send world connection (Text.encode completion.request.encode)
        = (.received (Text.encode Reply.acknowledgement) false, after)
      ∧ attends after (some connection)
      ∧ (limiter after).inflight = (limiter world).release.inflight
  hangUp : ∀ {world : σ} {connection : κ}, attends world (some connection) →
    attends (transport.hangUp world connection) none
      ∧ limiter (transport.hangUp world connection) = limiter world

namespace Daemon

/-- The daemon has a worker for one more connection besides others on which nothing happens, and
serves it if there is one. -/
structure Attends (plan : Plan) (others : List (Nat × Session)) (daemon : Daemon)
    (connection : Option Nat) : Prop where
  ready : daemon.IsReady plan
  queue : daemon.pool.queue = []
  spare : others.length < plan.pool.size
  served : daemon.pool.serving = others ++ (connection.map fun number => (number, ({} : Session))).toList
  numbered : ∀ entry ∈ others, entry.1 < daemon.pool.arrivals
  apart : ∀ number ∈ connection, ∀ entry ∈ others, entry.1 ≠ number

/-- A daemon that has just been started has a worker for a connection. -/
theorem attends_of_start {plan : Plan} {site : Site} {daemon : Daemon}
    (started : start plan site = .bound daemon) : Attends plan [] daemon none := by
  obtain ⟨ready, pool⟩ := isReady_of_start started
  have queue : daemon.pool.queue = [] := by rw [pool]; rfl
  have served : daemon.pool.serving = [] := by rw [pool]; rfl
  exact ⟨ready, queue, plan.pool.size_pos, served, by simp, by simp⟩

variable {plan : Plan} {others : List (Nat × Session)} {daemon : Daemon}

theorem Attends.connect (attends : Attends plan others daemon none)
    (limit : plan.pool.service.lineLimit ≠ 0) :
    ∃ number opened, Daemon.connect plan daemon = some (number, opened)
      ∧ Attends plan others opened (some number) ∧ opened.limiter = daemon.limiter := by
  obtain ⟨ready, queue, spare, served, numbered, _⟩ := attends
  have idle : daemon.pool.serving = others := served.trans (List.append_nil others)
  refine ⟨_, _, connect_of_free ready queue (idle ▸ spare) limit, ?_, rfl⟩
  refine ⟨⟨ready.reachable, ready.waiting, ready.settled.running, .inl queue⟩, queue, spare, ?_,
    fun entry member => Nat.lt_succ_of_lt (numbered entry member), ?_⟩
  · rw [idle]
    rfl
  · rintro number ⟨⟩ entry member
    exact Nat.ne_of_lt (numbered entry member)

variable {number : Nat}

/-- A request on the connection is answered, and the limiter does what it says. -/
theorem Attends.exchange (attends : Attends plan others daemon (some number)) {request : Request}
    (fits : request.encode.length ≤ plan.pool.service.lineLimit) :
    let answer := request.received.serve plan.pool.service.tuning daemon.limiter
    ∃ after, daemon.exchange plan number (Text.encode request.encode)
        = (.received (Text.encode answer.reply) false, after)
      ∧ Attends plan others after (some number) ∧ after.limiter = answer.state := by
  intro answer
  obtain ⟨ready, queue, spare, served, numbered, apart⟩ := attends
  have alone : ∀ entry ∈ others ++ [], entry.1 ≠ number := by
    rw [List.append_nil]
    exact apart number rfl
  have acted := Pool.act_request ready.settled served alone fits
  refine ⟨_, exchange_request ready served alone fits, ?_, ?_⟩
  · rw [acted]
    refine ⟨⟨ready.reachable, ready.waiting, ready.settled.running, .inl queue⟩, queue, spare, ?_,
      numbered, apart⟩
    rw [List.append_nil]
    rfl
  · rw [acted]
    rfl

/-- A connection that is given up leaves its worker free. -/
theorem Attends.leave (attends : Attends plan others daemon (some number)) :
    Attends plan others (daemon.act plan number .leave) none
      ∧ (daemon.act plan number .leave).limiter = daemon.limiter := by
  obtain ⟨ready, queue, spare, served, numbered, apart⟩ := attends
  have alone : ∀ entry ∈ others ++ [], entry.1 ≠ number := by
    rw [List.append_nil]
    exact apart number rfl
  have left : daemon.pool.act plan.pool number .leave = _ :=
    Pool.act_leave ready.settled.running queue served alone
  have acted : daemon.act plan number .leave
      = { daemon with pool := daemon.pool.act plan.pool number .leave } := by
    simp [act, proceed, submitFrom, ready.waiting]
  rw [acted, left]
  exact ⟨⟨⟨ready.reachable, ready.waiting, ready.settled.running, .inl queue⟩, queue, spare,
    rfl, numbered, by simp⟩, rfl⟩

/-- A daemon that carries every request line meters the connection. -/
theorem transport_meters (others : List (Nat × Session))
    (enough : Request.longestLine ≤ plan.pool.service.lineLimit) :
    (transport plan).Meters (Attends plan others) limiter where
  connect attends := by
    have positive : 0 < plan.pool.service.lineLimit := Nat.lt_of_lt_of_le (by decide) enough
    exact attends.connect (Nat.ne_of_gt positive)
  ask visitor attends :=
    attends.exchange (Nat.le_trans (Request.length_encode_le (.admission visitor)) enough)
  report completion attends := by
    obtain ⟨after, exchanged, still, limiterEq⟩ :=
      attends.exchange (Nat.le_trans (Request.length_encode_le completion.request) enough)
    exact ⟨after, exchanged, still, limiterEq ▸ Limiter.complete_inflight _ _ _ _⟩
  hangUp attends := attends.leave

end Daemon

end AdmissionControl
