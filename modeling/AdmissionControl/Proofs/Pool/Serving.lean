import AdmissionControl.Pool.Basic
import AdmissionControl.Proofs.Session.Carriage

/-!
# A pool at work

What a running pool does with a new connection while a worker is free, and with a request on a
connection that a worker serves. In both cases nothing else in the pool changes.
-/

namespace AdmissionControl

open Wire

namespace Pool

variable {plan : Plan} {pool : Pool}

/-- A running pool in which nothing follows by itself: connections wait only while every worker is
busy. -/
structure IsSettled (plan : Plan) (pool : Pool) : Prop where
  running : pool.phase = .running
  busy : pool.queue = [] ∨ plan.size ≤ pool.serving.length

theorem IsSettled.proceed (settled : IsSettled plan pool) : pool.proceed plan = pool := by
  obtain ⟨running, busy⟩ := settled
  simp only [Pool.proceed, running]
  cases waiting : pool.queue with
  | nil =>
      rw [takeUpFrom, ← waiting]
  | cons entry rest =>
      have full : ¬ pool.serving.length < plan.size := by
        rcases busy with empty | full
        · rw [waiting] at empty
          cases empty
        · exact Nat.not_lt.mpr full
      rw [takeUpFrom, if_neg full, ← waiting]

/-- A new connection goes to a free worker at once. -/
theorem submit_of_free (running : pool.phase = .running) (empty : pool.queue = [])
    (free : pool.serving.length < plan.size) (limit : plan.service.lineLimit ≠ 0) :
    (pool.submit plan {}).pool
      = { pool with
          arrivals := pool.arrivals + 1
          serving := pool.serving ++ [(pool.arrivals, {})] } := by
  have room : pool.hasRoom plan = true := by
    rw [hasRoom, empty, decide_eq_true_eq, List.length_nil]
    omega
  have takenUp : Inbox.takeUp plan.service pool.limiter {}
      = { session := {}, limiter := pool.limiter } := by
    unfold Inbox.takeUp Turn.hear
    rw [Session.await_of_lineLimit_ne_zero limit]
    rfl
  simp only [submit, running, room, empty, Pool.proceed, ne_eq, not_true, if_false, if_true,
    List.nil_append]
  rw [takeUpFrom, if_pos free, takenUp, takeUpFrom]
  simp [settle, Session.isOver]

section

variable {number : Nat} {before after : List (Nat × Session)}

/-- What a peer does on a connection that a worker serves is a turn of that worker's session. -/
theorem act_of_served {session : Session}
    (served : pool.serving = before ++ (number, session) :: after)
    (others : ∀ entry ∈ before ++ after, entry.1 ≠ number) (action : PeerAction) :
    pool.act plan number action
      = proceed plan ({ pool with serving := before ++ after }.settle number
          (action.onTurn plan.service { session, limiter := pool.limiter })) := by
  have found : pool.serving.lookup number = some session := by
    rw [served]
    refine List.lookup_eq_some_iff.mpr ⟨before, after, rfl, ?_⟩
    intro entry member
    simpa using Ne.symm (others entry (List.mem_append_left _ member))
  have rest : pool.serving.filter (·.1 ≠ number) = before ++ after := by
    have kept : (before ++ after).filter (·.1 ≠ number) = before ++ after := by
      rw [List.filter_eq_self]
      intro entry member
      simpa using others entry member
    rw [served, List.filter_append, List.filter_cons_of_neg (by simp), ← List.filter_append, kept]
  unfold act
  rw [found]
  dsimp only
  rw [rest]

/-- A request on an idle connection is carried out if it fits, and the connection is idle again. -/
theorem act_request (settled : IsSettled plan pool)
    (served : pool.serving = before ++ (number, {}) :: after)
    (others : ∀ entry ∈ before ++ after, entry.1 ≠ number) {request : Request}
    (fits : request.encode.length ≤ plan.service.lineLimit) :
    let answer := request.received.serve plan.service.tuning pool.limiter
    pool.act plan number (.send (Text.encode request.encode))
      = { pool with
          limiter := answer.state
          serving := before ++ after ++ [(number, {})]
          log := pool.log
            ++ [.exchanged number
              (.answered (Text.dropEndWhile Turn.isTerminator request.encode) answer.reply)
              true] } := by
  intro answer
  have carried : Turn.CarriesOut plan.service { session := {}, limiter := pool.limiter } request :=
    Turn.carriesOut_of_fits rfl fits
  have heard : PeerAction.onTurn plan.service { session := {}, limiter := pool.limiter }
      (.send (Text.encode request.encode)) = _ := carried.2
  have length : (before ++ after ++ [(number, ({} : Session))]).length = pool.serving.length := by
    rw [served]
    simp
  refine Eq.trans ?_ (IsSettled.proceed ⟨settled.running, length ▸ settled.busy⟩)
  rw [act_of_served served others, heard]
  rfl

/-- A peer that leaves an idle connection ends it, and nothing else follows if no connection
waits. -/
theorem act_leave (running : pool.phase = .running) (empty : pool.queue = [])
    (served : pool.serving = before ++ (number, {}) :: after)
    (others : ∀ entry ∈ before ++ after, entry.1 ≠ number) :
    pool.act plan number .leave
      = { pool with
          serving := before ++ after
          log := pool.log ++ [.closed number false] } := by
  have settled : IsSettled plan
      { pool with
        serving := before ++ after
        log := pool.log ++ [.closed number false] } := ⟨running, .inl empty⟩
  refine Eq.trans ?_ settled.proceed
  rw [act_of_served served others]
  simp [settle, PeerAction.onTurn, Session.hearEnd, Session.isOver]

end

end Pool

end AdmissionControl
