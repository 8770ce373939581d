import AdmissionControl.Proofs.Pool.Schedule

/-!
# A pool and its workers

A pool that is not shut down is what its workers show once they have come to rest: the queue, the
limiter and the log are the same, and the pool serves the connections that workers have. So whatever
peers do, the workers of a pool keep to their schedule.
-/

namespace AdmissionControl

namespace Pool

/-- Whether an action is not a part of a shutdown. -/
def Action.isOfPeer : Action → Bool
  | .submit _ | .act _ _ => true
  | .beginShutdown | .endShutdown | .shutdown _ => false

end Pool

namespace Crew

open Pool (Plan)

/-- The workers are those of a pool, which does not say which worker has which connection. -/
structure Shows (crew : Crew) (pool : Pool) : Prop where
  arrivals : crew.arrivals = pool.arrivals
  queue : crew.queue = pool.queue
  limiter : crew.limiter = pool.limiter
  log : crew.log = pool.log
  serving : crew.served.Perm pool.serving

variable {plan : Plan} {crew : Crew} {pool : Pool} {number worker : Nat}

theorem shows_fresh (plan : Plan) : (fresh plan).Shows (.fresh plan) where
  arrivals := rfl
  queue := rfl
  limiter := rfl
  log := rfl
  serving := by
    refine .of_eq (List.filterMap_eq_nil_iff.mpr fun worker member => ?_)
    rw [List.eq_of_mem_replicate member]
    rfl

/-- The turn of one worker is a turn of the pool without its connection. -/
theorem Shows.settle {old : Worker} (found : crew.workers[worker]? = some old)
    (arrivals : crew.arrivals = pool.arrivals) (queue : crew.queue = pool.queue)
    (log : crew.log = pool.log) (others : (crew.others worker).Perm pool.serving) (turn : Turn) :
    (crew.settle worker number turn).Shows (pool.settle number turn) := by
  have perm := served_set_perm found (.after number turn.session)
  rw [Worker.connection?_after] at perm
  unfold Crew.settle Pool.settle
  dsimp only
  split
  · next isOver =>
    rw [if_pos isOver] at perm
    exact ⟨arrivals, queue, rfl, by rw [log], perm.trans others⟩
  · next goesOn =>
    rw [if_neg goesOn] at perm
    refine ⟨arrivals, queue, rfl, by rw [log, List.append_nil], ?_⟩
    exact perm.trans ((others.cons _).trans (List.perm_append_singleton _ _).symm)

section Taking

/-- Some worker is idle exactly if there are fewer connections than workers. -/
theorem Sound.idle_mem_iff (sound : Sound plan crew) :
    Worker.idle ∈ crew.workers ↔ crew.served.length < plan.size := by
  constructor
  · intro member
    obtain ⟨worker, idle⟩ := List.mem_iff_getElem?.mp member
    have present := (List.getElem?_eq_some_iff.mp idle).1
    have few : (crew.others worker).length ≤ (crew.workers.eraseIdx worker).length :=
      List.length_filterMap_le _ _
    rw [List.length_eraseIdx_of_lt present, sound.staffed] at few
    have size := plan.size_pos
    have same : crew.served.length = (crew.others worker).length := (served_perm idle).length_eq
    omega
  · intro free
    by_contra noIdle
    exact Nat.ne_of_lt free (sound.length_served noIdle)

/-- Idle workers that take connections as long as they can come to where the pool is that hands
waiting connections out. -/
theorem Sound.exists_takes (sound : Sound plan crew) (pool : Pool) {waiting : List (Nat × Inbox)}
    (same : crew.Shows { pool with queue := waiting }) :
    ∃ moves : List Action, let after := moves.foldl (Crew.perform plan) crew
      after.IsSettled ∧ after.Shows (pool.takeUpFrom plan waiting) := by
  induction waiting generalizing crew pool with
  | nil => exact ⟨[], .inl same.queue, same⟩
  | cons entry rest inductionHypothesis =>
      obtain ⟨number, inbox⟩ := entry
      have length : crew.served.length = pool.serving.length := same.serving.length_eq
      unfold Pool.takeUpFrom
      split
      · next free =>
        obtain ⟨worker, idle⟩ :=
          List.mem_iff_getElem?.mp (sound.idle_mem_iff.mpr (length ▸ free))
        let ready : Crew :=
          { crew with queue := rest, starts := crew.starts ++ [(worker, number)] }
        let left : Pool := { pool with queue := rest }
        have readyIdle : ready.workers[worker]? = some .idle := idle
        have arrivals : ready.arrivals = left.arrivals := same.arrivals
        have queue : ready.queue = left.queue := rfl
        have log : ready.log = left.log := same.log
        have others : (ready.others worker).Perm left.serving :=
          (served_perm idle).symm.trans same.serving
        have shown : (crew.take plan worker).Shows
            { pool.settle number (inbox.takeUp plan.service pool.limiter) with queue := rest } := by
          rw [take_of_idle idle same.queue, Pool.settle_withQueue, ← same.limiter]
          exact .settle readyIdle arrivals queue log others _
        obtain ⟨moves, settled, later⟩ := inductionHypothesis (sound.take worker) _ shown
        exact ⟨.take worker :: moves, settled, later⟩
      · next busy =>
        exact ⟨[], .inr fun idle => busy (length ▸ sound.idle_mem_iff.mp idle), same⟩

end Taking

section Performing

/-- The connections of the other workers are all but the one of this worker. -/
theorem others_perm (distinct : (crew.served.map Prod.fst).Nodup) {session : Session}
    (held : crew.workers[worker]? = some (.serving number session)) :
    (crew.others worker).Perm (crew.served.filter (·.1 ≠ number)) := by
  have perm : crew.served.Perm ((number, session) :: crew.others worker) := served_perm held
  have apart : (number :: (crew.others worker).map Prod.fst).Nodup :=
    (perm.map Prod.fst).nodup_iff.mp distinct
  have kept : (crew.others worker).filter (·.1 ≠ number) = crew.others worker := by
    refine List.filter_eq_self.mpr fun entry member => decide_eq_true fun same => ?_
    exact (List.nodup_cons.mp apart).1 (List.mem_map.mpr ⟨entry, member, same⟩)
  have filtered := perm.filter (·.1 ≠ number)
  rw [List.filter_cons_of_neg (by simp), kept] at filtered
  exact filtered.symm

/-- Whether a submission has to wait is the same for the workers and for the pool. -/
theorem Sound.hasRoom_eq (sound : Sound plan crew) (settled : crew.IsSettled)
    (shows : crew.Shows pool) : pool.hasRoom plan = crew.hasRoom plan := by
  have scheduled := sound.scheduled settled
  have unfinished : crew.unfinished.length = pool.serving.length + pool.queue.length := by
    rw [sound.unfinished_perm.length_eq, opened, List.length_append, List.length_map,
      List.length_map, shows.serving.length_eq, shows.queue]
  rw [Bool.eq_iff_iff, scheduled.room, unfinished, Pool.hasRoom, decide_eq_true_eq]

/-- A submission to the pool, and what its workers do then. -/
theorem Sound.exists_submit (sound : Sound plan crew) (settled : crew.IsSettled)
    (shows : crew.Shows pool) (running : pool.phase = .running) (inbox : Inbox) :
    ∃ moves : List Action, let after := moves.foldl (Crew.perform plan) crew
      after.IsSettled ∧ after.Shows (pool.submit plan inbox).pool := by
  have sameRoom := sound.hasRoom_eq settled shows
  cases room : crew.hasRoom plan with
  | true =>
      let queued := { pool with
        arrivals := pool.arrivals + 1, queue := pool.queue ++ [(pool.arrivals, inbox)] }
      have shown : (crew.submit plan inbox).Shows queued := by
        rw [Crew.submit, if_pos room]
        refine ⟨congrArg (· + 1) shows.arrivals, ?_, shows.limiter, shows.log, shows.serving⟩
        rw [shows.queue, shows.arrivals]
      obtain ⟨moves, rest⟩ := (sound.submit inbox).exists_takes queued shown
      have submitted : (pool.submit plan inbox).pool = queued.takeUpFrom plan queued.queue := by
        simp [Pool.submit, running, sameRoom, room, Pool.proceed, queued]
      exact ⟨.submit inbox :: moves, by rw [submitted]; exact rest⟩
  | false =>
      have shown : (crew.submit plan inbox).Shows (pool.submit plan inbox).pool := by
        have refused : (pool.submit plan inbox).pool
            = { pool with
                arrivals := pool.arrivals + 1
                log := pool.log ++ [.closed pool.arrivals (!inbox.gone)] } := by
          simp [Pool.submit, running, sameRoom, room, Pool.turnAway]
        rw [refused, Crew.submit, if_neg (by simp [room])]
        refine ⟨congrArg (· + 1) shows.arrivals, shows.queue, shows.limiter, ?_, shows.serving⟩
        rw [shows.log, shows.arrivals]
      refine ⟨[.submit inbox], ?_, shown⟩
      change (crew.submit plan inbox).IsSettled
      rw [Crew.submit, if_neg (by simp [room])]
      exact settled

/-- What a peer does on its connection, and what the workers of the pool do then. -/
theorem Sound.exists_act (sound : Sound plan crew) (settled : crew.IsSettled)
    (shows : crew.Shows pool) (running : pool.phase = .running) (number : Nat)
    (action : PeerAction) :
    ∃ moves : List Action, let after := moves.foldl (Crew.perform plan) crew
      after.IsSettled ∧ after.Shows (pool.act plan number action) := by
  cases found : pool.serving.lookup number with
  | some session =>
      have served : (number, session) ∈ crew.served :=
        shows.serving.mem_iff.mpr (Pool.mem_of_lookup found)
      obtain ⟨worker, held⟩ := exists_worker_of_served served
      let others := pool.without number
      have arrivals : crew.arrivals = others.arrivals := shows.arrivals
      have queue : crew.queue = others.queue := shows.queue
      have log : crew.log = others.log := shows.log
      have rest : (crew.others worker).Perm others.serving :=
        (others_perm (List.nodup_append.mp sound.distinct).1 held).trans (shows.serving.filter _)
      let turn := action.onTurn plan.service { session, limiter := pool.limiter }
      have heard : (crew.hear plan worker action).Shows
          { others.settle number turn with queue := pool.queue } := by
        rw [hear_of_serving held, shows.limiter, Pool.settle_withQueue]
        exact .settle held arrivals queue log rest _
      rw [Pool.act_of_found running found]
      obtain ⟨moves, after⟩ := (sound.hear worker action).exists_takes _ heard
      exact ⟨.hear worker action :: moves, after⟩
  | none =>
      have unserved : pool.act plan number action
          = { pool with
              queue := pool.queue.map fun entry =>
                if entry.1 = number then (number, action.onInbox entry.2) else entry } := by
        rw [Pool.act, found]
      rw [unserved]
      refine ⟨[.wait number action], ?_, shows.arrivals, ?_, shows.limiter, shows.log,
        shows.serving⟩
      · exact settled.imp_left fun empty => by simp [Crew.perform, Crew.wait, empty]
      · exact congrArg (List.map _) shows.queue

/-- What is done to a pool, and what its workers do then. -/
theorem Sound.exists_perform (sound : Sound plan crew) (settled : crew.IsSettled)
    (shows : crew.Shows pool) (running : pool.phase = .running) {action : Pool.Action}
    (isOfPeer : action.isOfPeer = true) :
    ∃ moves : List Action, let after := moves.foldl (Crew.perform plan) crew
      after.IsSettled ∧ after.Shows (pool.perform plan action) := by
  cases action with
  | submit inbox => exact sound.exists_submit settled shows running inbox
  | act number action => exact sound.exists_act settled shows running number action
  | beginShutdown | endShutdown | shutdown => cases isOfPeer

end Performing

/-- A pool that is not shut down goes on running. -/
theorem inOrder_run (plan : Plan) {actions : List Pool.Action}
    (areOfPeers : ∀ action ∈ actions, action.isOfPeer = true) :
    (Pool.run plan actions).InOrder plan := by
  induction actions using List.reverseRecOn with
  | nil => exact Pool.inOrder_fresh plan
  | append_singleton earlier action inductionHypothesis =>
      have inOrder := inductionHypothesis fun other member =>
        areOfPeers other (List.mem_append_left _ member)
      have isOfPeer := areOfPeers action (List.mem_append_right _ (List.mem_singleton_self _))
      rw [Pool.run, List.foldl_append]
      cases action with
      | submit inbox => exact inOrder.submit inbox
      | act number action => exact inOrder.act number action
      | beginShutdown | endShutdown | shutdown => cases isOfPeer

/-- Every run of a pool that is not shut down is a run of its workers that come to rest. -/
theorem exists_run_shows (plan : Plan) {actions : List Pool.Action}
    (areOfPeers : ∀ action ∈ actions, action.isOfPeer = true) :
    ∃ moves, (run plan moves).IsSettled ∧ (run plan moves).Shows (Pool.run plan actions) := by
  induction actions using List.reverseRecOn with
  | nil => exact ⟨[], .inl rfl, shows_fresh plan⟩
  | append_singleton earlier action inductionHypothesis =>
      have before : ∀ other ∈ earlier, other.isOfPeer = true := fun other member =>
        areOfPeers other (List.mem_append_left _ member)
      have isOfPeer := areOfPeers action (List.mem_append_right _ (List.mem_singleton_self _))
      obtain ⟨moves, settled, shows⟩ := inductionHypothesis before
      obtain ⟨more, after⟩ := (sound_run plan moves).exists_perform settled shows
        (inOrder_run plan before).settled.running isOfPeer
      refine ⟨moves ++ more, ?_⟩
      rw [run, List.foldl_append, Pool.run, List.foldl_append]
      exact after

/-- Whenever the workers have come to rest, at most as many connections are served and at most as
many are queued as there are workers, none is queued while a worker is idle, a submission has to wait
exactly if all these places are taken, connections have started in the order of their submission,
each at one worker and once, and every worker goes on whatever ends its connection. A pool that is
not shut down is in such a state of its workers after every action. -/
theorem run_scheduled (plan : Plan) :
    (∀ moves, (run plan moves).IsSettled → (run plan moves).Scheduled plan)
      ∧ ∀ actions : List Pool.Action, (∀ action ∈ actions, action.isOfPeer = true) →
          ∃ moves, (run plan moves).IsSettled ∧ (run plan moves).Shows (Pool.run plan actions) :=
  ⟨fun moves settled => (sound_run plan moves).scheduled settled,
    fun _ areOfPeers => exists_run_shows plan areOfPeers⟩

/-- A pool set up without workers has one. It serves the first connection, the second one is queued,
and for the third there is no room; when the first one ends, its worker takes the second. -/
theorem run_scheduled_of_one :
    let plan : Plan := ⟨⟨⟨2, 300, 1, Limiter.usualDecrease⟩, 1024⟩, 0⟩
    let crew := run plan [.submit {}, .take 0, .submit {}, .submit {}]
    let later := run plan [.submit {}, .take 0, .submit {}, .submit {}, .hear 0 .leave, .take 0]
    let actions : List Pool.Action := [.submit {}, .submit {}, .submit {}, .act 0 .leave]
    crew.IsSettled ∧ crew.Scheduled plan ∧ crew.unfinished = [0, 1] ∧ crew.hasRoom plan = false
      ∧ later.IsSettled ∧ later.Scheduled plan ∧ later.starts = [(0, 0), (0, 1)]
      ∧ (∀ action ∈ actions, action.isOfPeer = true)
      ∧ ∃ moves, (run plan moves).IsSettled ∧ (run plan moves).Shows (Pool.run plan actions) := by
  intro plan crew later actions
  have settled : crew.IsSettled := by
    unfold IsSettled
    decide +kernel
  have settledLater : later.IsSettled := by
    unfold IsSettled
    decide +kernel
  have areOfPeers : ∀ action ∈ actions, action.isOfPeer = true := by
    simp [actions, Pool.Action.isOfPeer]
  obtain ⟨scheduled, shown⟩ := run_scheduled plan
  exact ⟨settled, scheduled _ settled, by decide +kernel, by decide +kernel, settledLater,
    scheduled _ settledLater, by decide +kernel, areOfPeers, shown actions areOfPeers⟩

end Crew

end AdmissionControl
