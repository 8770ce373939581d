import AdmissionControl.Proofs.Pool.Phases
import AdmissionControl.Proofs.Shift.CatchingUp

/-!
# A pool and its workers step by step

A pool is what its workers come to when each of them is let go on before anything else happens: the
queue and the limiter are the same, the same was told, and the pool serves the connections that
workers have. So every run of a pool is a run of its workers.
-/

namespace AdmissionControl

/-- The connection of a session that has caught up with its peer. -/
def Charge.of (entry : Nat × Session) : Charge where
  number := entry.1
  inbox := { gone := !entry.2.reachable }
  session := { entry.2 with reachable := true }

namespace Shift

open Pool (Plan)

/-- The workers are those of a pool, which does not say which worker has which connection. -/
structure Shows (shift : Shift) (pool : Pool) : Prop where
  arrivals : shift.arrivals = pool.arrivals
  queue : shift.queue = pool.queue
  limiter : shift.limiter = pool.limiter
  phase : shift.phase = pool.phase
  charges : shift.charges.Perm (pool.serving.map Charge.of)
  log : Tells shift.log pool.log

variable {plan : Plan} {shift : Shift} {pool : Pool} {worker number : Nat}

section Turns

/-- The worker's connection when it has caught up is that of the pool's session. -/
theorem caughtUp_eq (service : Service) (limiter : Limiter) (charge : Charge)
    (goesOn : (charge.catchUp service limiter).session.isOver = false) :
    charge.caughtUp [] (charge.catchUp service limiter)
      = .of (charge.number, (charge.catchUp service limiter).session) := by
  have sending : charge.inbox.ended = false := by
    by_contra ended
    rw [Charge.catchUp, if_pos (by simpa using ended)] at goesOn
    rw [Session.isOver_hearEnd] at goesOn
    cases goesOn
  rw [Charge.caughtUp, Charge.of, Charge.reachable_catchUp, Bool.not_not]
  dsimp only
  rw [sending]

/-- A worker that has caught up with its peer has done what the pool does in one turn. -/
theorem shows_settle (charge : Charge) (present : worker < shift.duties.length)
    (arrivals : shift.arrivals = pool.arrivals) (queue : shift.queue = pool.queue)
    (phase : shift.phase = pool.phase) (log : Tells shift.log pool.log)
    (others : (shift.others worker).Perm (pool.serving.map Charge.of)) (limiter : Limiter)
    {events : List Event}
    (tells : Tells events (shownIn charge.number (charge.catchUp plan.service limiter))) :
    let turn := charge.catchUp plan.service limiter
    ((shift.tell turn.limiter events).settle worker (charge.caughtUp [] turn)).Shows
      (pool.settle charge.number turn) := by
  intro turn
  have isDone : (charge.caughtUp [] turn).isDone = turn.session.isOver :=
    charge.isDone_caughtUp [] turn
  have charges := charges_set_perm present (.after (charge.caughtUp [] turn))
  rw [Duty.charge?_after, isDone] at charges
  unfold Shift.settle Pool.settle
  dsimp only
  rw [isDone]
  cases isOver : turn.session.isOver with
  | true =>
      rw [isOver, if_pos rfl] at charges
      refine ⟨arrivals, queue, rfl, phase, charges.trans others, (log.append tells).append ?_⟩
      exact ⟨rfl, fun _ => rfl, .refl _⟩
  | false =>
      rw [isOver, if_neg Bool.false_ne_true] at charges
      refine ⟨arrivals, queue, rfl, phase, ?_, ?_⟩
      · have same : charge.caughtUp [] turn = .of (charge.number, turn.session) :=
          caughtUp_eq plan.service limiter charge isOver
        refine charges.trans ?_
        rw [if_neg Bool.false_ne_true, List.map_append, same]
        exact (others.cons _).trans (List.perm_append_singleton _ _).symm
      · rw [if_neg Bool.false_ne_true, if_neg Bool.false_ne_true, List.append_nil]
        exact log.append tells

end Turns

section Taking

/-- The workers of a running pool: none has stopped, and their sessions know of no shutdown. -/
structure Runs (plan : Plan) (pool : Pool) (shift : Shift) : Prop where
  staffed : shift.duties.length = plan.size
  running : shift.phase = .running
  unstopped : .stopped ∉ shift.duties
  sessions : ∀ entry ∈ pool.serving, entry.2.IsUnstopped

/-- Workers of which none is idle and none has stopped all have a connection. -/
theorem length_charges {duties : List Duty}
    (busy : ∀ duty ∈ duties, duty ≠ .idle ∧ duty ≠ .stopped) :
    (duties.filterMap Duty.charge?).length = duties.length := by
  induction duties with
  | nil => rfl
  | cons duty rest inductionHypothesis =>
      obtain ⟨notIdle, notStopped⟩ := busy duty List.mem_cons_self
      cases duty with
      | idle => exact absurd rfl notIdle
      | stopped => exact absurd rfl notStopped
      | busy charge =>
          exact congrArg (· + 1)
            (inductionHypothesis fun other member => busy other (List.mem_cons_of_mem _ member))

/-- Some worker is idle exactly if there are fewer connections than workers. -/
theorem Runs.idle_mem_iff (runs : shift.Runs plan pool) :
    Duty.idle ∈ shift.duties ↔ shift.charges.length < plan.size := by
  constructor
  · intro member
    obtain ⟨worker, idle⟩ := List.mem_iff_getElem?.mp member
    have present := (List.getElem?_eq_some_iff.mp idle).1
    have few : (shift.others worker).length ≤ (shift.duties.eraseIdx worker).length :=
      List.length_filterMap_le _ _
    rw [List.length_eraseIdx_of_lt present, runs.staffed] at few
    have size := plan.size_pos
    have same : shift.charges.length = (shift.others worker).length :=
      (charges_perm idle).length_eq
    omega
  · intro free
    by_contra noIdle
    refine Nat.ne_of_lt free ((length_charges fun duty member => ?_).trans runs.staffed)
    exact ⟨fun idle => noIdle (idle ▸ member), fun stopped => runs.unstopped (stopped ▸ member)⟩

/-- Without a shutdown the end of a session leaves its worker idle. -/
theorem after_ne_stopped {charge : Charge} (unstopped : charge.session.IsUnstopped) :
    Duty.after charge ≠ .stopped := by
  obtain ⟨_, notShutDown, notAborted⟩ := unstopped
  unfold Duty.after
  split
  · split
    · next ending => exact absurd ending notShutDown
    · next ending => exact absurd ending notAborted
    all_goals exact nofun
  · exact nofun

/-- A turn of a worker in a running pool. -/
theorem Runs.settle (runs : shift.Runs plan pool) (worker number : Nat) {others : Pool}
    (fewer : others.serving ⊆ pool.serving) {turn : Turn} (unstopped : turn.session.IsUnstopped)
    (charge : Charge) (limiter : Limiter) (events : List Event) (queue : List (Nat × Inbox)) :
    (settle ({ shift with queue }.tell limiter events) worker (charge.caughtUp [] turn)).Runs plan
      (others.settle number turn) where
  staffed := by
    rw [Shift.settle, List.length_set]
    exact runs.staffed
  running := runs.running
  unstopped member := by
    rcases List.mem_or_eq_of_mem_set member with old | new
    · exact runs.unstopped old
    · exact after_ne_stopped unstopped new.symm
  sessions entry member := by
    unfold Pool.settle at member
    dsimp only at member
    split at member
    · exact runs.sessions entry (fewer member)
    · rcases List.mem_append.mp member with old | new
      · exact runs.sessions entry (fewer old)
      · rw [List.mem_singleton.mp new]
        exact unstopped

/-- An idle worker takes the first connection of the queue and catches up with its peer. -/
theorem reaches_take (plan : Plan) (running : shift.phase = .running) (idle : shift.duties[worker]? = some .idle)
    {inbox : Inbox} {rest : List (Nat × Inbox)} (queue : shift.queue = (number, inbox) :: rest) :
    let charge := Charge.opening false number inbox
    let turn := inbox.takeUp plan.service shift.limiter
    ∃ events, shift.Reaches plan
        (({ shift with queue := rest }.tell turn.limiter events).settle worker
          (charge.caughtUp [] turn))
      ∧ Tells events (shownIn number turn) := by
  intro charge turn
  have present := (List.getElem?_eq_some_iff.mp idle).1
  have goesOn : charge.isDone = false := rfl
  have taken : shift.take worker = settle { shift with queue := rest } worker charge := by
    rw [take, idle, queue]
    dsimp only
    rw [running]
    rfl
  have has : (shift.take worker).duties[worker]? = some (.busy charge) :=
    taken ▸ getElem?_settle present goesOn
  have takes : shift.Reaches plan (shift.take worker) := reaches_perform (.take worker) rfl
  obtain ⟨events, reaches, tells⟩ := canTurn_catchUp plan has rfl rfl rfl
  have limiter : (shift.take worker).limiter = shift.limiter := taken ▸ rfl
  have turnEq : charge.catchUp plan.service (shift.take worker).limiter = turn := by
    rw [limiter]
    rfl
  rw [turnEq] at reaches tells
  refine ⟨events, ?_, tells⟩
  let ready : Shift := { shift with queue := rest }
  have silent : shift.take worker = (ready.tell ready.limiter []).settle worker charge :=
    taken.trans (congrArg (Shift.settle · worker charge) (tell_nil ready).symm)
  have caught := takes.trans reaches
  rw [silent, settle_settle goesOn] at caught
  exact caught

/-- Workers that have come to rest where a running pool is. -/
structure Rests (plan : Plan) (pool : Pool) (shift : Shift) : Prop extends
    shift.Shows pool, shift.Runs plan pool where
  /-- No connection waits for a worker that is free. -/
  settled : shift.queue = [] ∨ .idle ∉ shift.duties

/-- Idle workers that take connections as long as they can come to where the pool is that hands
waiting connections out. -/
theorem Runs.reaches_takes {waiting : List (Nat × Inbox)} (runs : shift.Runs plan pool)
    (shown : shift.Shows { pool with queue := waiting }) :
    ∃ last, shift.Reaches plan last ∧ last.Rests plan (pool.takeUpFrom plan waiting) := by
  induction waiting generalizing shift pool with
  | nil =>
      exact ⟨shift, .refl plan shift, shown,
        ⟨runs.staffed, runs.running, runs.unstopped, runs.sessions⟩, .inl shown.queue⟩
  | cons entry rest inductionHypothesis =>
      obtain ⟨number, inbox⟩ := entry
      have length : shift.charges.length = pool.serving.length := by
        rw [shown.charges.length_eq, List.length_map]
      unfold Pool.takeUpFrom
      split
      · next free =>
        obtain ⟨worker, idle⟩ :=
          List.mem_iff_getElem?.mp (runs.idle_mem_iff.mpr (length ▸ free))
        let left : Pool := { pool with queue := rest }
        let ready : Shift := { shift with queue := rest }
        have limiter : shift.limiter = pool.limiter := shown.limiter
        obtain ⟨events, takes, tells⟩ := reaches_take plan runs.running idle shown.queue
        rw [limiter] at takes tells
        let turn := inbox.takeUp plan.service pool.limiter
        let taken := (ready.tell turn.limiter events).settle worker
          ((Charge.opening false number inbox).caughtUp [] turn)
        have takenShown : taken.Shows { pool.settle number turn with queue := rest } := by
          have present : worker < ready.duties.length := (List.getElem?_eq_some_iff.mp idle).1
          have arrivals : ready.arrivals = left.arrivals := shown.arrivals
          have phase : ready.phase = left.phase := shown.phase
          have log : Tells ready.log left.log := shown.log
          have others : (ready.others worker).Perm (left.serving.map Charge.of) :=
            (charges_perm idle).symm.trans shown.charges
          rw [Pool.settle_withQueue]
          exact shows_settle (.opening false number inbox) present arrivals rfl phase log others
            pool.limiter tells
        have takenRuns : taken.Runs plan (pool.settle number turn) :=
          runs.settle worker number (List.Subset.refl _) (Inbox.isUnstopped_takeUp ..) _ _ _ _
        obtain ⟨last, reaches, rests⟩ := inductionHypothesis takenRuns takenShown
        exact ⟨last, takes.trans reaches, rests⟩
      · next busy =>
        exact ⟨shift, .refl plan shift, shown,
          ⟨runs.staffed, runs.running, runs.unstopped, runs.sessions⟩,
          .inr fun idle => busy (length ▸ runs.idle_mem_iff.mp idle)⟩

end Taking

section Acting

/-- What a peer does changes only its own connection. -/
theorem map_onCharge_of_forall {duties : List Duty} {change : Charge → Charge}
    (same : ∀ charge ∈ duties.filterMap Duty.charge?, change charge = charge) :
    duties.map (Duty.onCharge change) = duties := by
  refine (List.map_congr_left fun duty member => ?_).trans (List.map_id duties)
  cases duty with
  | idle | stopped => rfl
  | busy charge =>
      exact congrArg Duty.busy (same charge (List.mem_filterMap.mpr ⟨_, member, rfl⟩))

theorem onPeer_of_ne {charge : Charge} (different : charge.number ≠ number) (action : PeerAction) :
    charge.onPeer number action = charge := if_neg different

/-- No two workers have the same connection. -/
theorem ne_of_mem_others (distinct : (shift.charges.map Charge.number).Nodup) {charge other : Charge}
    (has : shift.duties[worker]? = some (.busy charge)) (member : other ∈ shift.others worker) :
    other.number ≠ charge.number := by
  have apart : (charge.number :: (shift.others worker).map Charge.number).Nodup :=
    ((charges_perm has).map Charge.number).nodup_iff.mp distinct
  exact fun same => (List.nodup_cons.mp apart).1 (List.mem_map.mpr ⟨other, member, same⟩)

/-- A worker's connection after its peer has done something, and those of the others. -/
theorem act_of_has (distinct : (shift.charges.map Charge.number).Nodup) {charge : Charge}
    (has : shift.duties[worker]? = some (.busy charge)) (own : charge.number = number)
    (action : PeerAction) :
    let acted := shift.act number action
    acted.duties[worker]?
        = some (.busy { charge with inbox := action.onInbox charge.inbox })
      ∧ acted.others worker = shift.others worker := by
  subst own
  constructor
  · rw [Shift.act, List.getElem?_map, has]
    exact congrArg (fun charge => some (Duty.busy charge)) (if_pos rfl)
  · have others : (shift.act charge.number action).others worker
        = (shift.others worker).map (Charge.onPeer charge.number action) := by
      rw [Shift.others, Shift.act, List.eraseIdx_map, charges_map_onCharge]
      rfl
    rw [others]
    refine (List.map_congr_left fun other member => ?_).trans (List.map_id _)
    exact onPeer_of_ne (ne_of_mem_others distinct has member) action

/-- What a peer does on a connection that no worker has concerns no worker. -/
theorem act_of_unserved (unserved : number ∉ shift.charges.map Charge.number)
    (action : PeerAction) : (shift.act number action).duties = shift.duties :=
  map_onCharge_of_forall fun charge member =>
    onPeer_of_ne (fun same => unserved (List.mem_map.mpr ⟨charge, member, same⟩)) action

theorem numbers_of (serving : List (Nat × Session)) :
    (serving.map Charge.of).map Charge.number = serving.map Prod.fst := by
  rw [List.map_map]
  rfl

/-- What waits is left alone by a peer of another connection. -/
theorem map_onInbox_of_notMem {queue : List (Nat × Inbox)} (notQueued : number ∉ queue.map Prod.fst)
    (action : PeerAction) :
    (queue.map fun entry =>
      if entry.1 = number then (number, action.onInbox entry.2) else entry) = queue := by
  refine (List.map_congr_left fun entry member => ?_).trans (List.map_id queue)
  exact if_neg fun same => notQueued (List.mem_map.mpr ⟨entry, member, same⟩)

/-- To catch up with something that the peer does is a turn with it. -/
theorem catchUp_of_onInbox {service : Service} (positive : service.lineLimit ≠ 0)
    (limiter : Limiter) (number : Nat) (session : Session) (action : PeerAction) :
    let charge := Charge.of (number, session)
    ({ charge with inbox := action.onInbox charge.inbox } : Charge).catchUp service limiter
      = action.onTurn service { session, limiter } := by
  have same : ({ session with reachable := !!session.reachable } : Session) = session := by
    rw [Bool.not_not]
  cases action with
  | send bytes =>
      simp only [Charge.catchUp, Charge.of, PeerAction.onInbox, PeerAction.onTurn,
        Bool.false_eq_true, if_false, List.nil_append]
      rw [same]
  | finish =>
      simp only [Charge.catchUp, Charge.of, PeerAction.onInbox, PeerAction.onTurn, if_true,
        Turn.hear, List.foldl_nil, Session.await_of_lineLimit_ne_zero positive]
      rw [same]
  | leave =>
      simp only [Charge.catchUp, Charge.of, PeerAction.onInbox, PeerAction.onTurn, if_true,
        Turn.hear, List.foldl_nil, Session.await_of_lineLimit_ne_zero positive]
      rw [Bool.not_true, ← Session.hearEnd_withReachable]

/-- Whatever the peer of a served connection does, its worker can come to where the pool is after a
turn with it. -/
theorem Shows.reaches_hear (shown : shift.Shows pool) {peers : List Inbox}
    (faithful : Pool.Faithful plan peers pool) {session : Session}
    (found : pool.serving.lookup number = some session) (action : PeerAction) :
    let turn := action.onTurn plan.service { session, limiter := pool.limiter }
    let charge : Charge :=
      { Charge.of (number, session) with inbox := action.onInbox { gone := !session.reachable } }
    let acted := shift.act number action
    ∃ worker events heard,
      heard = (acted.tell turn.limiter events).settle worker (charge.caughtUp [] turn)
        ∧ acted.duties[worker]? = some (.busy charge) ∧ acted.Reaches plan heard
        ∧ heard.Shows ((pool.without number).settle number turn) := by
  intro turn charge acted
  have served := Pool.mem_of_lookup found
  obtain ⟨peer, _, attends⟩ := faithful.served _ served
  obtain ⟨_, _, current⟩ := attends.current
  have positive : plan.service.lineLimit ≠ 0 := Nat.ne_zero_of_lt current.room
  have numbers : (shift.charges.map Charge.number).Perm (pool.serving.map Prod.fst) :=
    (shown.charges.map Charge.number).trans (.of_eq (numbers_of _))
  have distinct : (shift.charges.map Charge.number).Nodup :=
    numbers.nodup_iff.mpr (List.nodup_append.mp faithful.distinct).1
  have notQueued : number ∉ shift.queue.map Prod.fst := by
    rw [shown.queue]
    exact List.disjoint_of_nodup_append faithful.distinct (List.mem_map.mpr ⟨_, served, rfl⟩)
  obtain ⟨worker, has⟩ := exists_worker
    (shown.charges.mem_iff.mpr (List.mem_map.mpr ⟨_, served, rfl⟩))
  have own : (Charge.of (number, session)).number = number := rfl
  obtain ⟨hasNow, sameOthers⟩ := act_of_has distinct has own action
  obtain ⟨events, reaches, tells⟩ := canTurn_catchUp plan hasNow rfl current.isOpen rfl
  have limiter : (shift.act number action).limiter = pool.limiter := shown.limiter
  have turnEq : charge.catchUp plan.service pool.limiter = turn :=
    catchUp_of_onInbox positive pool.limiter number session action
  have caught : _ = turn := (congrArg (charge.catchUp plan.service) limiter).trans turnEq
  refine ⟨worker, events, _, rfl, hasNow, caught ▸ reaches, ?_⟩
  have others : (acted.others worker).Perm ((pool.without number).serving.map Charge.of) := by
    rw [sameOthers]
    have kept : (shift.others worker).filter (·.number ≠ number) = shift.others worker :=
      List.filter_eq_self.mpr fun other member =>
        decide_eq_true (ne_of_mem_others distinct has member)
    have perm := ((charges_perm has).symm.trans shown.charges).filter (·.number ≠ number)
    rw [Duty.charge?, Option.toList_some, List.singleton_append,
      List.filter_cons_of_neg (by simp [Charge.of]), kept, List.filter_map] at perm
    exact perm
  have present : worker < acted.duties.length := (List.getElem?_eq_some_iff.mp hasNow).1
  have arrivals : acted.arrivals = (pool.without number).arrivals := shown.arrivals
  have queue : acted.queue = (pool.without number).queue :=
    (map_onInbox_of_notMem notQueued action).trans shown.queue
  have phase : acted.phase = (pool.without number).phase := shown.phase
  have log : Tells acted.log (pool.without number).log := shown.log
  have tellsTurn : Tells events
      (shownIn charge.number (charge.catchUp plan.service (shift.act number action).limiter)) := tells
  rw [limiter] at tellsTurn
  have settled :=
    shows_settle charge present arrivals queue phase log others pool.limiter tellsTurn
  dsimp only at settled
  rw [turnEq] at settled
  exact settled

/-- What a peer does on a connection that no worker has. -/
theorem Shows.act_of_unserved (plan : Plan) (shown : shift.Shows pool)
    (unserved : pool.serving.lookup number = none) (action : PeerAction) :
    (shift.act number action).duties = shift.duties
      ∧ (shift.act number action).Shows (pool.act plan number action) := by
  have noWorker : number ∉ shift.charges.map Charge.number := fun member =>
    Pool.lookup_eq_none_iff.mp unserved (numbers_of pool.serving
      ▸ (shown.charges.map Charge.number).mem_iff.mp member)
  have same := Shift.act_of_unserved noWorker action
  refine ⟨same, ?_⟩
  rw [Pool.act, unserved]
  refine ⟨shown.arrivals, congrArg (List.map _) shown.queue, shown.limiter, shown.phase, ?_,
    shown.log⟩
  rw [Shift.charges, same]
  exact shown.charges

end Acting

section Performing

theorem shows_fresh (plan : Plan) : (fresh plan).Shows (.fresh plan) where
  arrivals := rfl
  queue := rfl
  limiter := rfl
  phase := rfl
  charges := by
    refine .of_eq (List.filterMap_eq_nil_iff.mpr fun duty member => ?_)
    rw [List.eq_of_mem_replicate member]
    rfl
  log := tells_nil

theorem runs_fresh (plan : Plan) : (fresh plan).Runs plan (.fresh plan) where
  staffed := List.length_replicate
  running := rfl
  unstopped member := by cases List.eq_of_mem_replicate member
  sessions _ member := nomatch member

theorem mem_map_onCharge {duties : List Duty} {change : Charge → Charge} :
    (Duty.stopped ∈ duties.map (Duty.onCharge change) ↔ Duty.stopped ∈ duties)
      ∧ (Duty.idle ∈ duties.map (Duty.onCharge change) ↔ Duty.idle ∈ duties) := by
  constructor <;> refine ⟨fun member => ?_, fun member => List.mem_map.mpr ⟨_, member, rfl⟩⟩ <;>
    obtain ⟨duty, present, same⟩ := List.mem_map.mp member <;> cases duty <;> cases same <;>
    exact present

theorem Runs.act (runs : shift.Runs plan pool) (number : Nat) (action : PeerAction) :
    (shift.act number action).Runs plan pool where
  staffed := by
    rw [Shift.act, List.length_map]
    exact runs.staffed
  running := runs.running
  unstopped := mt mem_map_onCharge.1.mp runs.unstopped
  sessions := runs.sessions

/-- Events of a pool that closes one connection without a word. -/
theorem tells_closed (number : Nat) (ending : Option Session.Ending) (seen : Bool) :
    Tells [.closed number ending] [.closed number seen] := ⟨rfl, fun _ => rfl, .refl _⟩

/-- Whether a submission has to wait is the same for the workers and for the pool. -/
theorem Rests.hasRoom_iff (rests : shift.Rests plan pool) :
    pool.hasRoom plan = true ↔ shift.queue.length < plan.size := by
  have length : shift.charges.length = pool.serving.length := by
    rw [rests.charges.length_eq, List.length_map]
  have few : shift.charges.length ≤ shift.duties.length := List.length_filterMap_le _ _
  have size := plan.size_pos
  rw [rests.staffed] at few
  rw [Pool.hasRoom, decide_eq_true_eq, ← length, ← rests.queue]
  rcases rests.settled with empty | noIdle
  · rw [empty, List.length_nil]
    omega
  · have free := mt rests.toRuns.idle_mem_iff.mpr noIdle
    omega

/-- A submission to a running pool, and what its workers do then. -/
theorem Rests.submit (rests : shift.Rests plan pool) (inbox : Inbox) :
    ∃ last, (shift.submit plan inbox).Reaches plan last
      ∧ last.Rests plan (pool.submit plan inbox).pool := by
  have running : pool.phase = .running := rests.phase.symm.trans rests.running
  have room := rests.hasRoom_iff
  by_cases queued : shift.queue.length < plan.size
  · let waiting := pool.queue ++ [(pool.arrivals, inbox)]
    let counted := { pool with arrivals := pool.arrivals + 1, queue := waiting }
    have submitted : shift.submit plan inbox
        = { shift with
            arrivals := shift.arrivals + 1
            queue := shift.queue ++ [(shift.arrivals, inbox)] } := by
      simp [Shift.submit, outcome, rests.running, queued]
    have shown : (shift.submit plan inbox).Shows counted := by
      rw [submitted]
      refine ⟨congrArg (· + 1) rests.arrivals, ?_, rests.limiter, rests.phase, rests.charges,
        rests.log⟩
      dsimp only [counted, waiting]
      rw [rests.queue, rests.arrivals]
    have runs : (shift.submit plan inbox).Runs plan counted := by
      rw [submitted]
      exact ⟨rests.staffed, rests.running, rests.unstopped, rests.sessions⟩
    have same : (pool.submit plan inbox).pool = counted.takeUpFrom plan waiting := by
      simp [Pool.submit, running, room.mpr queued, Pool.proceed, counted, waiting]
    rw [same]
    exact runs.reaches_takes shown
  · have submitted : shift.submit plan inbox
        = { shift with
            arrivals := shift.arrivals + 1
            log := shift.log ++ [.closed shift.arrivals none] } := by
      simp [Shift.submit, outcome, rests.running, queued]
    have same : (pool.submit plan inbox).pool
        = { pool with
            arrivals := pool.arrivals + 1
            log := pool.log ++ [.closed pool.arrivals (!inbox.gone)] } := by
      simp [Pool.submit, running, mt room.mp queued, Pool.turnAway]
    refine ⟨_, .refl plan _, ?_⟩
    rw [same, submitted]
    refine ⟨⟨congrArg (· + 1) rests.arrivals, rests.queue, rests.limiter, rests.phase,
      rests.charges, ?_⟩, ⟨rests.staffed, rests.running, rests.unstopped, rests.sessions⟩,
      rests.settled⟩
    rw [rests.arrivals]
    exact rests.log.append (tells_closed ..)

/-- What a peer of a running pool does on its connection, and what the workers do then. -/
theorem Rests.act (rests : shift.Rests plan pool) {peers : List Inbox}
    (faithful : Pool.Faithful plan peers pool) (number : Nat) (action : PeerAction) :
    ∃ last, (shift.act number action).Reaches plan last
      ∧ last.Rests plan (pool.act plan number action) := by
  have running : pool.phase = .running := rests.phase.symm.trans rests.running
  cases found : pool.serving.lookup number with
  | some session =>
      obtain ⟨worker, events, _, rfl, _, hears, shown⟩ :=
        rests.toShows.reaches_hear faithful found action
      let turn := action.onTurn plan.service { session, limiter := pool.limiter }
      have unstopped : turn.session.IsUnstopped :=
        Session.IsUnstopped.onTurn (rests.sessions _ (Pool.mem_of_lookup found)) action
      have fewer : (pool.without number).serving ⊆ pool.serving := List.filter_subset_self _
      have runs := (rests.toRuns.act number action).settle worker number fewer unstopped
        { Charge.of (number, session) with inbox := action.onInbox { gone := !session.reachable } }
        turn.limiter events (shift.act number action).queue
      rw [Pool.act_of_found running found]
      have queue : pool.queue = ((pool.without number).settle number turn).queue := by
        unfold Pool.settle
        split <;> rfl
      rw [queue]
      obtain ⟨last, reaches, rested⟩ := runs.reaches_takes shown
      exact ⟨last, hears.trans reaches, rested⟩
  | none =>
      obtain ⟨same, shown⟩ := rests.toShows.act_of_unserved plan found action
      refine ⟨_, .refl plan _, shown, ?_, ?_⟩
      · have runs := rests.toRuns.act number action
        refine ⟨runs.staffed, runs.running, runs.unstopped, ?_⟩
        rw [Pool.act, found]
        exact runs.sessions
      · rw [same]
        exact rests.settled.imp_left fun empty => by simp [Shift.act, empty]

end Performing

end Shift

end AdmissionControl
