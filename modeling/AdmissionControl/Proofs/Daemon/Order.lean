import AdmissionControl.Daemon.Clientele
import AdmissionControl.Proofs.Daemon.Calls
import AdmissionControl.Proofs.Pool.Accounts

/-!
# A running daemon

Whatever happens to a daemon before it is stopped, every connection that its pool has open has a
number of its own, and nothing is left to follow by itself: connections wait only while every worker
is busy, and are held back only while the pool has no room. So a request on an idle connection is
answered at once, and nothing else happens with it.
-/

namespace AdmissionControl

open Wire

namespace Pool

/-- Every open connection has its own number, which was given out. -/
structure Numbered (pool : Pool) : Prop where
  distinct : pool.numbers.Nodup
  given : ∀ number ∈ pool.numbers, number < pool.arrivals

/-- A running pool in which nothing follows by itself, with distinct connections. -/
structure InOrder (plan : Plan) (pool : Pool) : Prop where
  settled : IsSettled plan pool
  numbered : pool.Numbered

variable {plan : Plan} {pool : Pool} {number : Nat}

section Numbers

/-- Fewer connections are still distinct. -/
theorem Numbered.sublist (numbered : pool.Numbered) {fewer : Pool}
    (sublist : fewer.numbers.Sublist pool.numbers) (arrivals : pool.arrivals ≤ fewer.arrivals) :
    fewer.Numbered :=
  ⟨numbered.distinct.sublist sublist,
    fun number member => Nat.lt_of_lt_of_le (numbered.given number (sublist.subset member)) arrivals⟩

/-- A worker's turn on a connection that the pool without it neither serves nor has waiting. -/
theorem Numbered.settle (numbered : pool.Numbered) (elsewhere : number ∉ pool.numbers)
    (given : number < pool.arrivals) (turn : Turn) : (pool.settle number turn).Numbered := by
  unfold Pool.settle
  dsimp only
  split
  · exact ⟨numbered.distinct, numbered.given⟩
  · have swapped : ((pool.serving ++ [(number, turn.session)]).map Prod.fst
        ++ pool.queue.map Prod.fst).Perm (number :: pool.numbers) := by
      rw [List.map_append, List.append_assoc]
      exact List.perm_middle
    refine ⟨swapped.nodup_iff.mpr (List.nodup_cons.mpr ⟨elsewhere, numbered.distinct⟩), ?_⟩
    intro other member
    rcases List.mem_cons.mp (swapped.mem_iff.mp member) with rfl | earlier
    · exact given
    · exact numbered.given other earlier

/-- Handing waiting connections to free workers. -/
theorem Numbered.takeUpFrom {waiting : List (Nat × Inbox)}
    (numbered : Numbered { pool with queue := waiting }) :
    (pool.takeUpFrom plan waiting).Numbered := by
  induction waiting generalizing pool with
  | nil => exact numbered
  | cons entry rest inductionHypothesis =>
      obtain ⟨number, inbox⟩ := entry
      unfold Pool.takeUpFrom
      split
      · refine inductionHypothesis ?_
        rw [settle_withQueue]
        have elsewhere : number ∉ numbers { pool with queue := rest } :=
          (List.nodup_cons.mp (List.nodup_middle.mp numbered.distinct)).1
        have others : Numbered { pool with queue := rest } :=
          numbered.sublist (List.Sublist.append_left (List.sublist_cons_self number _) _)
            (Nat.le_refl _)
        refine others.settle elsewhere (numbered.given number ?_) _
        exact List.mem_append_right _ List.mem_cons_self
      · exact numbered

end Numbers

section Order

theorem phase_settle (pool : Pool) (number : Nat) (turn : Turn) :
    (pool.settle number turn).phase = pool.phase := by
  unfold Pool.settle
  dsimp only
  split <;> rfl

theorem queue_settle (pool : Pool) (number : Nat) (turn : Turn) :
    (pool.settle number turn).queue = pool.queue := by
  unfold Pool.settle
  dsimp only
  split <;> rfl

/-- The pool without one of its sessions. -/
def without (pool : Pool) (number : Nat) : Pool :=
  { pool with serving := pool.serving.filter (·.1 ≠ number) }

/-- What a peer does on a connection that is found is a turn of its worker, and then waiting
connections are handed out. -/
theorem act_of_found (running : pool.phase = .running) {session : Session}
    (found : pool.serving.lookup number = some session) (action : PeerAction) :
    pool.act plan number action
      = ((pool.without number).settle number
          (action.onTurn plan.service { session, limiter := pool.limiter })).takeUpFrom plan
          pool.queue := by
  have runs (turn : Turn) : ((pool.without number).settle number turn).phase = .running :=
    (phase_settle ..).trans running
  have waits (turn : Turn) : ((pool.without number).settle number turn).queue = pool.queue :=
    queue_settle ..
  unfold Pool.act
  rw [found]
  change proceed plan ((pool.without number).settle number _) = _
  rw [Pool.proceed, runs, waits]

/-- Waiting connections are handed out until none is left or every worker is busy. -/
theorem isSettled_takeUpFrom (running : pool.phase = .running) (waiting : List (Nat × Inbox)) :
    IsSettled plan (pool.takeUpFrom plan waiting) := by
  induction waiting generalizing pool with
  | nil => exact ⟨running, .inl rfl⟩
  | cons entry rest inductionHypothesis =>
      obtain ⟨number, inbox⟩ := entry
      unfold Pool.takeUpFrom
      split
      · exact inductionHypothesis ((phase_settle ..).trans running)
      · next busy => exact ⟨running, .inr (Nat.le_of_not_lt busy)⟩

/-- A running pool comes to order by itself. -/
theorem Numbered.inOrder_proceed (numbered : pool.Numbered) (running : pool.phase = .running) :
    (pool.proceed plan).InOrder plan := by
  have proceeds : pool.proceed plan = pool.takeUpFrom plan pool.queue := by
    rw [Pool.proceed, running]
  rw [proceeds]
  exact ⟨isSettled_takeUpFrom running _, numbered.takeUpFrom⟩

theorem inOrder_fresh (plan : Plan) : (fresh plan).InOrder plan :=
  ⟨⟨rfl, .inl rfl⟩, List.nodup_nil, nofun⟩

theorem InOrder.submit (inOrder : pool.InOrder plan) (inbox : Inbox) :
    (pool.submit plan inbox).pool.InOrder plan := by
  obtain ⟨⟨running, busy⟩, numbered⟩ := inOrder
  unfold Pool.submit
  dsimp only
  rw [if_neg (by simp [running])]
  split
  · refine Numbered.inOrder_proceed ?_ running
    have numbers : numbers { pool with
          arrivals := pool.arrivals + 1, queue := pool.queue ++ [(pool.arrivals, inbox)] }
        = pool.numbers ++ [pool.arrivals] := by
      simp [Pool.numbers]
    constructor
    · rw [numbers]
      refine List.nodup_append.mpr ⟨numbered.distinct, List.nodup_singleton _, ?_⟩
      intro number member last isLast
      rw [List.mem_singleton.mp isLast]
      exact Nat.ne_of_lt (numbered.given number member)
    · rw [numbers]
      intro number member
      rcases List.mem_append.mp member with earlier | last
      · exact Nat.lt_succ_of_lt (numbered.given number earlier)
      · rw [List.mem_singleton.mp last]
        exact Nat.lt_succ_self _
  · exact ⟨⟨running, busy⟩, numbered.sublist (.refl _) (Nat.le_succ _)⟩

theorem InOrder.act (inOrder : pool.InOrder plan) (number : Nat) (action : PeerAction) :
    (pool.act plan number action).InOrder plan := by
  obtain ⟨⟨running, busy⟩, numbered⟩ := inOrder
  unfold Pool.act
  cases lookedUp : pool.serving.lookup number with
  | none =>
      have sameNumbers := map_fst_onInbox number action pool.queue
      refine ⟨⟨running, busy.imp_left fun empty => by rw [empty]; rfl⟩, ?_⟩
      refine numbered.sublist ?_ (Nat.le_refl _)
      unfold numbers
      dsimp only
      rw [sameNumbers]
  | some session =>
      have served : number ∈ pool.serving.map Prod.fst :=
        List.mem_map.mpr ⟨_, mem_of_lookup lookedUp, rfl⟩
      have others : Numbered { pool with serving := pool.serving.filter (·.1 ≠ number) } :=
        numbered.sublist (List.Sublist.append_right (List.filter_sublist.map _) _) (Nat.le_refl _)
      have elsewhere :
          number ∉ numbers { pool with serving := pool.serving.filter (·.1 ≠ number) } := by
        intro present
        rcases List.mem_append.mp present with still | waits
        · obtain ⟨entry, member, same⟩ := List.mem_map.mp still
          simpa [same] using (List.mem_filter.mp member).2
        · exact List.disjoint_of_nodup_append numbered.distinct served waits
      exact (others.settle elsewhere (numbered.given number (List.mem_append_left _ served))
        _).inOrder_proceed ((phase_settle ..).trans running)

end Order

end Pool

namespace Daemon

/-- A daemon that was started, whatever has happened to it before it is stopped. -/
inductive Running (plan : Plan) : Daemon → Prop where
  | start {site : Site} {daemon : Daemon} (started : start plan site = .bound daemon) :
      Running plan daemon
  | connect {daemon after : Daemon} {number : Nat} (running : Running plan daemon)
      (connected : daemon.connect plan = some (number, after)) : Running plan after
  | act {daemon : Daemon} (running : Running plan daemon) (number : Nat) (action : PeerAction) :
      Running plan (daemon.act plan number action)
  | operate {daemon : Daemon} (running : Running plan daemon) (operation : Limiter.Operation) :
      Running plan (daemon.operate plan operation)
  | changeSite {daemon : Daemon} (running : Running plan daemon) (change : Site → Site) :
      Running plan (daemon.changeSite change)

/-- The pool is in order, and connections are held back only while it has no room. -/
structure InOrder (plan : Plan) (daemon : Daemon) : Prop where
  pool : daemon.pool.InOrder plan.pool
  full : daemon.waiting = [] ∨ daemon.pool.hasRoom plan.pool = false

variable {plan : Plan} {daemon : Daemon}

/-- Connections are submitted until none is left or the pool has no room. -/
theorem inOrder_submitFrom (inOrder : daemon.pool.InOrder plan.pool)
    (waiting : List (Nat × Inbox)) : (daemon.submitFrom plan waiting).InOrder plan := by
  induction waiting generalizing daemon with
  | nil => exact ⟨inOrder, .inl rfl⟩
  | cons entry rest inductionHypothesis =>
      obtain ⟨number, inbox⟩ := entry
      unfold submitFrom
      split
      · exact inductionHypothesis (inOrder.submit inbox)
      · next noRoom => exact ⟨inOrder, .inr (Bool.eq_false_iff.mpr noRoom)⟩

theorem inOrder_proceed (inOrder : daemon.pool.InOrder plan.pool) :
    (proceed plan daemon).InOrder plan := inOrder_submitFrom inOrder daemon.waiting

/-- A pool without room is left alone. -/
theorem pool_submitFrom {waiting : List (Nat × Inbox)}
    (full : waiting = [] ∨ daemon.pool.hasRoom plan.pool = false) :
    (daemon.submitFrom plan waiting).pool = daemon.pool := by
  cases waiting with
  | nil => rfl
  | cons entry rest =>
      have noRoom : daemon.pool.hasRoom plan.pool = false := full.resolve_left (List.cons_ne_nil _ _)
      rw [submitFrom, if_neg (by simp [noRoom])]

/-- A running daemon is in order. -/
theorem Running.inOrder (running : Running plan daemon) : daemon.InOrder plan := by
  induction running with
  | start started =>
      obtain ⟨ready, pool⟩ := isReady_of_start started
      exact ⟨pool ▸ Pool.inOrder_fresh plan.pool, .inl ready.waiting⟩
  | connect running connected inOrder =>
      unfold Daemon.connect at connected
      split at connected
      · cases connected
        refine inOrder_proceed ?_
        exact inOrder.pool
      · cases connected
  | act running number action inOrder =>
      refine inOrder_proceed ?_
      exact inOrder.pool.act number action
  | operate running operation inOrder =>
      obtain ⟨⟨⟨phase, busy⟩, distinct, given⟩, full⟩ := inOrder
      exact ⟨⟨⟨phase, busy⟩, distinct, given⟩, full⟩
  | changeSite running change inOrder => exact ⟨inOrder.pool, inOrder.full⟩

/-- A request which fits, on an idle connection that a worker holds, is answered at once. The
workers go on holding the same connections, in the same state. -/
theorem InOrder.exchange (inOrder : daemon.InOrder plan) {number : Nat}
    (held : (number, {}) ∈ daemon.pool.serving) {request : Request}
    (fits : request.encode.length ≤ plan.pool.service.lineLimit) :
    let answer := request.received.serve plan.pool.service.tuning daemon.limiter
    let after := daemon.act plan number (.send (Text.encode request.encode))
    daemon.exchange plan number (Text.encode request.encode)
        = (.received (Text.encode answer.reply) false, after)
      ∧ after.limiter = answer.state
      ∧ ∀ entry, entry ∈ after.pool.serving ↔ entry ∈ daemon.pool.serving := by
  intro answer after
  obtain ⟨before, later, served⟩ := List.append_of_mem held
  have others : ∀ entry ∈ before ++ later, entry.1 ≠ number := by
    have distinct : (daemon.pool.serving.map Prod.fst).Nodup :=
      (List.nodup_append.mp inOrder.pool.numbered.distinct).1
    rw [served, List.map_append, List.map_cons, List.nodup_middle, List.nodup_cons,
      ← List.map_append] at distinct
    exact fun entry member same => distinct.1 (List.mem_map.mpr ⟨entry, member, same⟩)
  have acted := Pool.act_request inOrder.pool.settled served others fits
  have pool : after.pool = daemon.pool.act plan.pool number (.send (Text.encode request.encode)) := by
    refine pool_submitFrom ?_
    refine inOrder.full.imp (fun nothing => by rw [nothing]; rfl) fun noRoom => ?_
    dsimp only
    rw [acted, Pool.hasRoom, ← noRoom, Pool.hasRoom, served]
    simp
  refine ⟨?_, ?_, fun entry => ?_⟩
  · have isOpen : daemon.isOpen number = true := by simp [isOpen, served]
    unfold Daemon.exchange
    rw [if_pos isOpen]
    dsimp only
    rw [show (daemon.act plan number (.send (Text.encode request.encode))).pool = _ from pool, acted]
    simp [Pool.eventsSince, Pool.sight, Exchange.reply, answer, after, limiter]
  · rw [limiter, pool, acted]
    rfl
  · rw [pool, acted, served]
    simp only [List.mem_append, List.mem_cons, List.not_mem_nil, or_false]
    tauto

end Daemon

end AdmissionControl
