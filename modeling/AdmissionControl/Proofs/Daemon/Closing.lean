import AdmissionControl.Daemon.Server
import AdmissionControl.Proofs.Daemon.Waiting
import AdmissionControl.Proofs.Pool.Closing

/-!
# A daemon closes every connection

Connections are numbered as they are opened. While a daemon accepts them, each one waits for the
pool, or the pool has it open or has closed it. A daemon that is over, however it came to its end,
has closed all of them.
-/

namespace AdmissionControl.Daemon

variable {plan : Plan} {daemon after : Daemon} {opened : List Nat} {number : Nat}

/-- A daemon that accepts connections, and those that were opened. -/
structure Accepts (opened : List Nat) (daemon : Daemon) : Prop where
  running : daemon.pool.phase = .running
  accounts : daemon.pool.Accounts (List.range daemon.pool.arrivals)
  /-- The pool will number connections as they were numbered when they came. -/
  counted : daemon.waiting.map Prod.fst = List.range' daemon.pool.arrivals daemon.waiting.length
  opened : opened = List.range daemon.nextNumber

/-- A daemon that stops, and the connections that were opened. -/
structure Stops (opened : List Nat) (daemon : Daemon) : Prop where
  listening : daemon.listening = false
  waiting : daemon.waiting = []
  pool : daemon.pool.WindsUp opened
  distinct : opened.Nodup

/-- A daemon that is over, and the connections that were opened. -/
structure IsOver (opened : List Nat) (daemon : Daemon) : Prop where
  listening : daemon.listening = false
  waiting : daemon.waiting = []
  numbers : daemon.pool.numbers = []
  accounts : daemon.pool.Accounts opened

section Accepting

theorem accepts_fresh (plan : Plan) (site : Site) : (fresh plan site).Accepts [] where
  running := rfl
  accounts := .nil
  counted := rfl
  opened := rfl

/-- Submitting connections. -/
theorem accepts_submitFrom (running : daemon.pool.phase = .running)
    (accounts : daemon.pool.Accounts (List.range daemon.pool.arrivals))
    {waiting : List (Nat × Inbox)}
    (counted : waiting.map Prod.fst = List.range' daemon.pool.arrivals waiting.length) :
    (daemon.submitFrom plan waiting).Accepts
      (List.range (daemon.pool.arrivals + waiting.length)) := by
  induction waiting generalizing daemon with
  | nil => exact ⟨running, accounts, rfl, rfl⟩
  | cons entry rest inductionHypothesis =>
      obtain ⟨number, inbox⟩ := entry
      unfold submitFrom
      split
      · next room =>
        let submitted : Daemon := { daemon with pool := (daemon.pool.submit plan.pool inbox).pool }
        have arrivals : submitted.pool.arrivals = daemon.pool.arrivals + 1 :=
          (Pool.exists_takes_submit running room inbox).1
        have stillRunning : submitted.pool.phase = .running := Pool.running_submit running inbox
        obtain ⟨rfl, countedRest⟩ := List.cons.inj counted
        have accountsNow : submitted.pool.Accounts (List.range submitted.pool.arrivals) := by
          rw [arrivals, List.range_succ]
          exact accounts.submit inbox
        have countedNow : rest.map Prod.fst
            = List.range' submitted.pool.arrivals rest.length := by
          rw [arrivals]
          exact countedRest
        have later := inductionHypothesis stillRunning accountsNow countedNow
        rwa [arrivals, Nat.add_assoc, Nat.add_comm 1] at later
      · exact ⟨running, accounts, counted, rfl⟩

theorem Accepts.proceed (accepts : daemon.Accepts opened) :
    (daemon.proceed plan).Accepts opened := by
  rw [accepts.opened]
  exact accepts_submitFrom accepts.running accepts.accounts accepts.counted

/-- A connection comes, and waits. -/
theorem Accepts.knock (accepts : daemon.Accepts opened)
    (knocked : daemon.knock = some (number, after)) : after.Accepts (opened ++ [number]) := by
  unfold Daemon.knock at knocked
  split at knocked
  · cases knocked
    refine ⟨accepts.running, accepts.accounts, ?_, ?_⟩
    · simp only [List.map_append, accepts.counted, List.length_append, List.length_singleton,
        List.range'_concat, nextNumber]
      simp
    · rw [accepts.opened]
      simp only [nextNumber, List.length_append, List.length_singleton]
      rw [← Nat.add_assoc, List.range_succ]
  · cases knocked

/-- A connection that waits is not the pool's. -/
theorem pool_knock (knocked : daemon.knock = some (number, after)) : after.pool = daemon.pool := by
  unfold Daemon.knock at knocked
  split at knocked
  · cases knocked
    rfl
  · cases knocked

/-- Opening a connection to a daemon that serves lets what follows follow. -/
theorem connect_eq_knock (plan : Plan) (daemon : Daemon) :
    daemon.connect plan = daemon.knock.map fun knocked => (knocked.1, knocked.2.proceed plan) := by
  unfold Daemon.connect knock
  split <;> rfl

theorem Accepts.connect (accepts : daemon.Accepts opened)
    (connected : daemon.connect plan = some (number, after)) :
    after.Accepts (opened ++ [number]) := by
  rw [connect_eq_knock, Option.map_eq_some_iff] at connected
  obtain ⟨⟨knocker, waits⟩, knocked, same⟩ := connected
  cases same
  exact (accepts.knock knocked).proceed

/-- What a peer does on a connection that waits leaves the numbers as they are. -/
theorem Accepts.leaveWord (accepts : daemon.Accepts opened) (number : Nat) (action : PeerAction) :
    (daemon.leaveWord number action).Accepts opened := by
  have sameNumbers := Pool.map_fst_onInbox number action daemon.waiting
  have sameLength : (daemon.leaveWord number action).waiting.length = daemon.waiting.length :=
    List.length_map _
  refine ⟨accepts.running, accepts.accounts, ?_, ?_⟩
  · rw [sameLength]
    exact sameNumbers.trans accepts.counted
  · rw [accepts.opened, nextNumber, nextNumber, sameLength]
    rfl

theorem act_eq_leaveWord (plan : Plan) (daemon : Daemon) (number : Nat) (action : PeerAction) :
    daemon.act plan number action
      = Daemon.proceed plan
          { daemon.leaveWord number action with pool := daemon.pool.act plan.pool number action } :=
  rfl

theorem Accepts.act (accepts : daemon.Accepts opened) (number : Nat) (action : PeerAction) :
    (daemon.act plan number action).Accepts opened := by
  rw [act_eq_leaveWord]
  have left := accepts.leaveWord number action
  have arrivals : (daemon.pool.act plan.pool number action).arrivals = daemon.pool.arrivals :=
    Pool.arrivals_act accepts.running number action
  refine Accepts.proceed ⟨Pool.running_act accepts.running number action, ?_, ?_, ?_⟩
  · rw [arrivals]
    exact accepts.accounts.act List.nodup_range number action
  · rw [arrivals]
    exact left.counted
  · rw [left.opened, nextNumber, nextNumber, arrivals]
    rfl

theorem Accepts.operate (accepts : daemon.Accepts opened) (operation : Limiter.Operation) :
    (daemon.operate plan operation).Accepts opened :=
  ⟨accepts.running, accepts.accounts, accepts.counted, accepts.opened⟩

end Accepting

section Ending

/-- Connections that wait are numbered after those that were submitted. -/
theorem Accepts.opened_eq (accepts : daemon.Accepts opened) :
    opened = List.range daemon.pool.arrivals ++ daemon.waiting.map Prod.fst := by
  rw [accepts.opened, accepts.counted, nextNumber, List.range_eq_range', List.range_eq_range',
    ← List.range'_append_1, Nat.zero_add]

/-- A daemon that serves begins to stop. -/
theorem Accepts.beginStop (accepts : daemon.Accepts opened) :
    (daemon.beginStop plan).Stops opened := by
  have closed := accepts.accounts.turnAway daemon.waiting
  rw [← accepts.opened_eq] at closed
  refine ⟨rfl, rfl, closed.beginShutdown accepts.running, ?_⟩
  rw [accepts.opened]
  exact List.nodup_range

/-- A daemon that never served is given up. -/
theorem Accepts.discard (accepts : daemon.Accepts opened) (unserved : daemon.pool.numbers = []) :
    daemon.discard.IsOver opened := by
  have closed := accepts.accounts.turnAway daemon.waiting
  rw [← accepts.opened_eq] at closed
  exact ⟨rfl, rfl, unserved, closed⟩

/-- Peers still act on connections whose lines are waited for. -/
theorem Stops.act (stops : daemon.Stops opened) (number : Nat) (action : PeerAction) :
    (daemon.act plan number action).Stops opened := by
  have pool : (daemon.pool.act plan.pool number action).WindsUp opened :=
    stops.pool.act stops.distinct number action
  have acted : daemon.act plan number action
      = { daemon with pool := daemon.pool.act plan.pool number action } := by
    simp [Daemon.act, Daemon.proceed, submitFrom, stops.waiting]
  rw [acted]
  exact ⟨stops.listening, stops.waiting, pool, stops.distinct⟩

theorem Stops.operate (stops : daemon.Stops opened) (operation : Limiter.Operation) :
    (daemon.operate plan operation).Stops opened :=
  ⟨stops.listening, stops.waiting,
    ⟨stops.pool.begun, stops.pool.emptied, stops.pool.accounts⟩, stops.distinct⟩

/-- Whatever was still waited for is closed at the end. -/
theorem Stops.endStop (stops : daemon.Stops opened) : (daemon.endStop plan).IsOver opened :=
  ⟨stops.listening, stops.waiting, stops.pool.endShutdown.1, stops.pool.endShutdown.2⟩

/-- No peer can do anything any more. -/
theorem IsOver.act (isOver : daemon.IsOver opened) (number : Nat) (action : PeerAction) :
    daemon.act plan number action = daemon := by
  obtain ⟨unserved, unqueued⟩ := List.append_eq_nil_iff.mp isOver.numbers
  have missing : daemon.pool.serving.lookup number = none := by
    rw [List.map_eq_nil_iff.mp unserved]
    rfl
  have nobody : Pool.onLine number action daemon.pool.queue = daemon.pool.queue := by
    rw [List.map_eq_nil_iff.mp unqueued]
    rfl
  have pool : daemon.pool.act plan.pool number action = daemon.pool := by
    unfold Pool.act
    rw [missing]
    change { daemon.pool with queue := Pool.onLine number action daemon.pool.queue } = daemon.pool
    rw [nobody]
  have acted : daemon.act plan number action
      = { daemon with pool := daemon.pool.act plan.pool number action } := by
    simp [Daemon.act, Daemon.proceed, submitFrom, isOver.waiting]
  rw [acted, pool]

theorem IsOver.operate (isOver : daemon.IsOver opened) (operation : Limiter.Operation) :
    (daemon.operate plan operation).IsOver opened :=
  ⟨isOver.listening, isOver.waiting, isOver.numbers, isOver.accounts⟩

/-- No connection is open. -/
theorem IsOver.isOpen (isOver : daemon.IsOver opened) (number : Nat) :
    daemon.isOpen number = false := by
  obtain ⟨unserved, unqueued⟩ := List.append_eq_nil_iff.mp isOver.numbers
  simp [Daemon.isOpen, List.map_eq_nil_iff.mp unserved, List.map_eq_nil_iff.mp unqueued,
    isOver.waiting]

/-- Every connection that was opened has been closed. -/
theorem IsOver.exists_closed (isOver : daemon.IsOver opened) (isOpened : number ∈ opened) :
    ∃ seen, .closed number seen ∈ daemon.pool.log := by
  have closed := isOver.accounts
  rw [Pool.Accounts, isOver.numbers, List.nil_append] at closed
  obtain ⟨event, happened, closes⟩ := List.mem_filterMap.mp (closed.mem_iff.mpr isOpened)
  cases event with
  | closed other seen =>
      cases closes
      exact ⟨seen, happened⟩
  | exchanged => cases closes

/-- Nobody listens any more. -/
theorem connect_of_not_listening (listening : daemon.listening = false) :
    daemon.connect plan = none := by
  simp [Daemon.connect, isReachable, listening]

end Ending

section Exchanges

/-- Sending bytes is all that an exchange does, if it does anything. -/
theorem exchange_cases (plan : Plan) (daemon : Daemon) (number : Nat) (bytes : List UInt8) :
    (daemon.exchange plan number bytes).2 = daemon
      ∨ (daemon.exchange plan number bytes).2 = daemon.act plan number (.send bytes) := by
  unfold Daemon.exchange
  split
  · exact .inr rfl
  · exact .inl rfl

end Exchanges

end AdmissionControl.Daemon
