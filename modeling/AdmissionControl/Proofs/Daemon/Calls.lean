import AdmissionControl.Daemon.Basic
import AdmissionControl.Proofs.Pool.Serving

/-!
# Calls on a daemon

A daemon that can be reached and holds no connection back hands each new connection to its pool at
once, and a peer that sends a request sees the reply and nothing else.
-/

namespace AdmissionControl

open Wire

/-- A site that could be bound has its socket. -/
theorem Site.entry_of_bind {site bound : Site} (eq : site.bind = ⟨none, bound⟩) :
    bound.entry = .socket := by
  unfold bind at eq
  repeat' split at eq
  all_goals cases eq
  rfl

namespace Daemon

variable {plan : Plan} {daemon : Daemon}

/-- A daemon that can be reached and holds no connection back. -/
structure IsReady (plan : Plan) (daemon : Daemon) : Prop where
  reachable : daemon.isReachable = true
  waiting : daemon.waiting = []
  settled : Pool.IsSettled plan.pool daemon.pool

/-- Starting a daemon leaves it ready, with a fresh pool. -/
theorem isReady_of_start {site : Site} (started : start plan site = .bound daemon) :
    IsReady plan daemon ∧ daemon.pool = .fresh plan.pool := by
  have bound : daemon.site.entry = .socket ∧ daemon = .fresh plan daemon.site := by
    unfold start at started
    split at started
    · next bound eq =>
      have socket := Site.entry_of_bind eq
      cases started
      exact ⟨socket, rfl⟩
    · cases started
  obtain ⟨socket, eq⟩ := bound
  have pool : daemon.pool = .fresh plan.pool := by rw [eq]; rfl
  refine ⟨⟨?_, by rw [eq]; rfl, by rw [pool]; rfl, .inl (by rw [pool]; rfl)⟩, pool⟩
  have listening : daemon.listening = true := by rw [eq]; rfl
  simp [isReachable, listening, socket]

/-- With a free worker a new connection is served at once. -/
theorem connect_of_free (ready : IsReady plan daemon) (empty : daemon.pool.queue = [])
    (free : daemon.pool.serving.length < plan.pool.size)
    (limit : plan.pool.service.lineLimit ≠ 0) :
    daemon.connect plan
      = some (daemon.pool.arrivals,
          { daemon with
            pool :=
              { daemon.pool with
                arrivals := daemon.pool.arrivals + 1
                serving := daemon.pool.serving ++ [(daemon.pool.arrivals, {})] } }) := by
  have room : daemon.pool.hasRoom plan.pool = true := by
    rw [Pool.hasRoom, empty, decide_eq_true_eq, List.length_nil]
    omega
  have submitted := Pool.submit_of_free ready.settled.running empty free limit
  simp only [connect, ready.reachable, if_true, nextNumber, ready.waiting, List.length_nil,
    Nat.add_zero, List.nil_append, proceed]
  rw [submitFrom, if_pos room, submitFrom, submitted]

variable {number : Nat} {before after : List (Nat × Session)} {request : Request}

/-- The peer of an idle connection that sends a request which fits receives the reply to it. -/
theorem exchange_request (ready : IsReady plan daemon)
    (served : daemon.pool.serving = before ++ (number, {}) :: after)
    (others : ∀ entry ∈ before ++ after, entry.1 ≠ number)
    (fits : request.encode.length ≤ plan.pool.service.lineLimit) :
    let answer := request.received.serve plan.pool.service.tuning daemon.limiter
    daemon.exchange plan number (Text.encode request.encode)
      = (.received (Text.encode answer.reply) false,
          { daemon with
            pool := daemon.pool.act plan.pool number (.send (Text.encode request.encode)) }) := by
  intro answer
  have isOpen : daemon.isOpen number = true := by simp [isOpen, served]
  have acted := Pool.act_request ready.settled served others fits
  have unchanged : daemon.act plan number (.send (Text.encode request.encode))
      = { daemon with
          pool := daemon.pool.act plan.pool number (.send (Text.encode request.encode)) } := by
    simp [act, proceed, submitFrom, ready.waiting]
  unfold exchange
  rw [if_pos isOpen, unchanged, acted]
  simp [Pool.eventsSince, Pool.sight, Exchange.reply, answer, limiter]

end Daemon

end AdmissionControl
