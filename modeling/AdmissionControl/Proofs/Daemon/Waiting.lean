import AdmissionControl.Proofs.Client.RoundTrips
import AdmissionControl.Proofs.Daemon.Order
import AdmissionControl.Proofs.Pool.Waiting

/-!
# Waiting for a worker

A worker keeps a connection until it ends, and only opening a connection has a time limit. So a call
is left waiting while its connection is held back, in the queue of the pool or before it, and for no
other reason. It is held back exactly as long as every worker serves a connection that was opened
earlier.
-/

namespace AdmissionControl

open Wire

namespace Client

/-- A call is left waiting exactly if nothing has come that ends its wait. -/
theorem settle_outcome_eq_unanswered_iff {σ κ α : Type} (transport : Transport σ κ)
    (link : Link κ) (world : σ) (arrival : Arrival) (accept : List Char → Except Fault α) :
    (settle transport link world arrival accept).outcome = .unanswered
      ↔ isAnswered link arrival = false := by
  cases arrival with
  | refused => simp [settle, isAnswered]
  | received bytes closed =>
      simp only [settle, isAnswered, firstLine]
      cases Text.cut? 10 (link.unread ++ bytes) with
      | some sides =>
          dsimp only
          cases Text.decode? (sides.1 ++ [10]) with
          | none => simp
          | some text =>
              dsimp only
              cases accept (Text.trimEnd text) <;> simp
      | none =>
          cases closed with
          | false => simp
          | true =>
              by_cases empty : link.unread ++ bytes = []
              · simp [empty]
              · simp only [Bool.not_true, Bool.false_eq_true, if_false, List.isEmpty_iff, empty,
                  Bool.true_or]
                cases Text.decode? (link.unread ++ bytes) with
                | none => simp
                | some text =>
                    dsimp only
                    cases accept (Text.trimEnd text) <;> simp

/-- What a caller makes of a failure is no waiting. -/
theorem Errand.conclude_eq_unanswered_iff (errand : Errand) (outcome : Outcome Result) :
    errand.conclude outcome = .unanswered ↔ outcome = .unanswered := by
  cases errand <;> cases outcome <;> simp [conclude, Outcome.recover]

end Client

namespace Daemon

/-- The connections that no worker has, in the order in which they came. -/
def line (daemon : Daemon) : List (Nat × Inbox) := daemon.pool.queue ++ daemon.waiting

/-- Whether a connection is open and no worker has it. -/
def isHeldBack (daemon : Daemon) (number : Nat) : Bool := daemon.line.any (·.1 == number)

theorem isHeldBack_iff {daemon : Daemon} {number : Nat} :
    daemon.isHeldBack number = true ↔ number ∈ daemon.line.map Prod.fst := by
  simp [isHeldBack, List.any_eq_true]

/-- A daemon in order whose connections are in line. -/
structure InLine (plan : Plan) (daemon : Daemon) : Prop where
  inOrder : daemon.InOrder plan
  line : Pool.InLine plan.pool daemon.nextNumber daemon.pool.serving daemon.line
  /-- The pool will number connections as they were numbered when they came. -/
  counted : daemon.waiting.map Prod.fst
    = List.range' daemon.pool.arrivals daemon.waiting.length

variable {plan : Plan} {daemon after : Daemon} {number : Nat} {session : Session}

/-- A worker has no connection that is held back. -/
theorem InLine.not_heldBack (inLine : daemon.InLine plan)
    (served : (number, session) ∈ daemon.pool.serving) : number ∉ daemon.line.map Prod.fst := by
  intro waits
  obtain ⟨entry, member, same⟩ := List.mem_map.mp waits
  exact Nat.lt_irrefl _ (same ▸ inLine.line.earlier _ served entry member)

section Steps

/-- Nothing is submitted to a pool without room. -/
theorem proceed_of_full (full : daemon.waiting = [] ∨ daemon.pool.hasRoom plan.pool = false) :
    proceed plan daemon = daemon := by
  unfold proceed
  cases waiting : daemon.waiting with
  | nil => rw [submitFrom, ← waiting]
  | cons entry rest =>
      have noRoom := full.resolve_left (waiting ▸ List.cons_ne_nil entry rest)
      rw [submitFrom, if_neg (by simp [noRoom]), ← waiting]

/-- Submitting connections leaves their line as it is, but for its head. -/
theorem exists_takes_submitFrom (inOrder : daemon.pool.InOrder plan.pool)
    {waiting : List (Nat × Inbox)}
    (counted : waiting.map Prod.fst = List.range' daemon.pool.arrivals waiting.length) :
    let after := daemon.submitFrom plan waiting
    after.nextNumber = daemon.pool.arrivals + waiting.length
      ∧ after.waiting.map Prod.fst = List.range' after.pool.arrivals after.waiting.length
      ∧ ∃ taken events, daemon.pool.queue ++ waiting = taken ++ after.line
          ∧ Pool.Takes plan.pool daemon.pool taken events after.pool := by
  induction waiting generalizing daemon with
  | nil => exact ⟨rfl, rfl, [], [], rfl, Pool.takes_nil rfl rfl⟩
  | cons entry rest inductionHypothesis =>
      obtain ⟨number, inbox⟩ := entry
      unfold submitFrom
      split
      · next room =>
        obtain ⟨arrivals, first, firstEvents, queueEq, takesFirst⟩ :=
          Pool.exists_takes_submit inOrder.settled.running room inbox
        obtain ⟨rfl, countedRest⟩ := List.cons.inj counted
        let submitted : Daemon :=
          { daemon with pool := (daemon.pool.submit plan.pool inbox).pool }
        have inOrderNext : submitted.pool.InOrder plan.pool := inOrder.submit inbox
        have countedNext : rest.map Prod.fst
            = List.range' submitted.pool.arrivals rest.length := by
          rw [show submitted.pool.arrivals = _ from arrivals]
          exact countedRest
        obtain ⟨next, countedAfter, taken, events, lineEq, takes⟩ :=
          inductionHypothesis inOrderNext countedNext
        refine ⟨?_, countedAfter, first ++ taken, firstEvents ++ events, ?_, takesFirst.trans takes⟩
        · rw [next, arrivals, List.length_cons]
          omega
        · rw [List.append_cons, queueEq, List.append_assoc, lineEq, List.append_assoc]
      · exact ⟨rfl, counted, [], [], rfl, Pool.takes_nil rfl rfl⟩

/-- What follows by itself. -/
theorem inLine_proceed (inOrder : daemon.pool.InOrder plan.pool)
    (line : Pool.InLine plan.pool daemon.nextNumber daemon.pool.serving daemon.line)
    (counted : daemon.waiting.map Prod.fst
      = List.range' daemon.pool.arrivals daemon.waiting.length) :
    let after := proceed plan daemon
    after.InLine plan ∧ after.nextNumber = daemon.nextNumber
      ∧ ∃ taken events, daemon.line = taken ++ after.line
          ∧ Pool.Takes plan.pool daemon.pool taken events after.pool := by
  intro after
  obtain ⟨next, countedAfter, taken, events, lineEq, takes⟩ :=
    exists_takes_submitFrom inOrder counted
  refine ⟨⟨inOrder_proceed inOrder, ?_, countedAfter⟩, next, taken, events, lineEq, takes⟩
  rw [show after.nextNumber = daemon.nextNumber from next]
  exact Pool.InLine.takes (lineEq ▸ line) takes

/-- A new connection comes to the end of the line. -/
theorem InLine.connect (inLine : daemon.InLine plan)
    (connected : daemon.connect plan = some (number, after)) :
    number = daemon.nextNumber ∧ after.InLine plan ∧ after.nextNumber = daemon.nextNumber + 1
      ∧ ∃ taken events, daemon.line ++ [(number, ({} : Inbox))] = taken ++ after.line
          ∧ Pool.Takes plan.pool daemon.pool taken events after.pool := by
  unfold Daemon.connect at connected
  split at connected
  · obtain ⟨rfl, rfl⟩ := Prod.mk.inj (Option.some.inj connected)
    let arrived : Daemon := { daemon with waiting := daemon.waiting ++ [(daemon.nextNumber, {})] }
    have inOrder : arrived.pool.InOrder plan.pool := inLine.inOrder.pool
    have next : arrived.nextNumber = daemon.nextNumber + 1 := by
      simp only [nextNumber, arrived, List.length_append, List.length_singleton]
      omega
    have lineEq : arrived.line = daemon.line ++ [(daemon.nextNumber, ({} : Inbox))] :=
      (List.append_assoc ..).symm
    have line : Pool.InLine plan.pool arrived.nextNumber arrived.pool.serving arrived.line := by
      rw [next, lineEq]
      exact inLine.line.arrive
    have counted : arrived.waiting.map Prod.fst
        = List.range' arrived.pool.arrivals arrived.waiting.length := by
      simp only [arrived, List.map_append, inLine.counted, List.length_append,
        List.length_singleton, List.range'_concat, nextNumber]
      simp
    obtain ⟨inLineAfter, nextAfter, taken, events, lineAfter, takes⟩ :=
      inLine_proceed inOrder line counted
    exact ⟨rfl, inLineAfter, nextAfter.trans next, taken, events, lineEq ▸ lineAfter, takes⟩
  · cases connected

/-- What a peer does on a connection that a worker has is a turn of that worker, and then workers
may take up the head of the line. -/
theorem InLine.act_served (inLine : daemon.InLine plan)
    (served : (number, session) ∈ daemon.pool.serving) (action : PeerAction) :
    let turn := action.onTurn plan.pool.service { session, limiter := daemon.pool.limiter }
    let after := daemon.act plan number action
    after.InLine plan ∧ after.nextNumber = daemon.nextNumber
      ∧ ∃ taken events, daemon.line = taken ++ after.line
          ∧ Pool.Takes plan.pool ((daemon.pool.without number).settle number turn) taken events
              after.pool := by
  intro turn after
  have inOrder := inLine.inOrder.pool
  have found := Pool.lookup_of_mem (List.nodup_append.mp inOrder.numbered.distinct).1 served
  obtain ⟨arrivals, first, firstEvents, queueEq, takesFirst⟩ :=
    Pool.exists_takes_act inOrder.settled.running found action
  let moved : Daemon := { daemon with pool := daemon.pool.act plan.pool number action }
  have afterEq : after = proceed plan moved := by
    have elsewhere : number ∉ daemon.waiting.map Prod.fst := by
      have notHeld := inLine.not_heldBack served
      rw [Daemon.line, List.map_append, List.mem_append, not_or] at notHeld
      exact notHeld.2
    have waiting := Pool.onLine_of_not_mem elsewhere action
    exact congrArg (fun waiting => proceed plan { moved with waiting }) waiting
  have lineEq : daemon.line = first ++ moved.line := by
    rw [Daemon.line, queueEq, List.append_assoc]
    rfl
  have next : moved.nextNumber = daemon.nextNumber := congrArg (· + daemon.waiting.length) arrivals
  have line : Pool.InLine plan.pool moved.nextNumber moved.pool.serving moved.line := by
    have turnedLine := inLine.line.turn served action
    rw [lineEq] at turnedLine
    rw [next]
    exact turnedLine.takes takesFirst
  have counted : moved.waiting.map Prod.fst
      = List.range' moved.pool.arrivals moved.waiting.length := by
    rw [show moved.pool.arrivals = _ from arrivals]
    exact inLine.counted
  obtain ⟨inLineAfter, nextAfter, taken, events, lineAfter, takes⟩ :=
    inLine_proceed (inOrder.act number action) line counted
  rw [afterEq]
  refine ⟨inLineAfter, nextAfter.trans next, first ++ taken, firstEvents ++ events, ?_,
    takesFirst.trans takes⟩
  rw [lineEq, lineAfter, List.append_assoc]

/-- What a peer does on a connection that no worker has is kept for later. -/
theorem InLine.act_unserved (inLine : daemon.InLine plan)
    (unserved : number ∉ daemon.pool.serving.map Prod.fst) (action : PeerAction) :
    let after := daemon.act plan number action
    after.InLine plan ∧ after.nextNumber = daemon.nextNumber
      ∧ after.line = Pool.onLine number action daemon.line ∧ after.pool.log = daemon.pool.log := by
  intro after
  have missing := Pool.lookup_eq_none_iff.mpr unserved
  have acted : daemon.pool.act plan.pool number action
      = { daemon.pool with queue := Pool.onLine number action daemon.pool.queue } := by
    unfold Pool.act
    rw [missing]
    rfl
  let moved : Daemon :=
    { daemon with
      pool := { daemon.pool with queue := Pool.onLine number action daemon.pool.queue }
      waiting := Pool.onLine number action daemon.waiting }
  have full : moved.waiting = [] ∨ moved.pool.hasRoom plan.pool = false := by
    refine inLine.inOrder.full.imp (fun nothing => ?_) fun noRoom => ?_
    · simp only [moved, nothing]
      rfl
    · rw [← noRoom]
      simp only [moved, Pool.hasRoom, Pool.onLine, List.length_map]
  have afterEq : after = moved := by
    have changed : after = proceed plan moved := by
      simp only [after, Daemon.act, acted]
      rfl
    rw [changed, proceed_of_full full]
  have lineEq : moved.line = Pool.onLine number action daemon.line := (List.map_append ..).symm
  have sameLength : moved.waiting.length = daemon.waiting.length := List.length_map _
  have next : moved.nextNumber = daemon.nextNumber := congrArg (daemon.pool.arrivals + ·) sameLength
  have counted : moved.waiting.map Prod.fst
      = List.range' moved.pool.arrivals moved.waiting.length := by
    rw [sameLength]
    exact (Pool.map_fst_onLine ..).trans inLine.counted
  rw [afterEq]
  refine ⟨⟨⟨?_, full⟩, ?_, counted⟩, next, lineEq, rfl⟩
  · have order := inLine.inOrder.pool.act number action
    rwa [acted] at order
  · rw [next, lineEq]
    exact inLine.line.onLine number action

theorem served_or_not (daemon : Daemon) (number : Nat) :
    (∃ session, (number, session) ∈ daemon.pool.serving)
      ∨ number ∉ daemon.pool.serving.map Prod.fst := by
  by_cases served : number ∈ daemon.pool.serving.map Prod.fst
  · obtain ⟨entry, member, rfl⟩ := List.mem_map.mp served
    exact .inl ⟨entry.2, member⟩
  · exact .inr served

theorem InLine.operate (inLine : daemon.InLine plan) (operation : Limiter.Operation) :
    (daemon.operate plan operation).InLine plan := by
  obtain ⟨⟨⟨⟨phase, busy⟩, distinct, given⟩, full⟩, line, counted⟩ := inLine
  exact ⟨⟨⟨⟨phase, busy⟩, distinct, given⟩, full⟩, line, counted⟩

theorem InLine.changeSite (inLine : daemon.InLine plan) (change : Site → Site) :
    (daemon.changeSite change).InLine plan :=
  ⟨⟨inLine.inOrder.pool, inLine.inOrder.full⟩, inLine.line, inLine.counted⟩

/-- In a running daemon connections are in line. -/
theorem Running.inLine (running : Running plan daemon) : daemon.InLine plan := by
  induction running with
  | @start site daemon started =>
      have inOrder := (Running.start started).inOrder
      obtain ⟨ready, pool⟩ := isReady_of_start started
      have line : daemon.line = [] := by
        rw [Daemon.line, ready.waiting, pool]
        rfl
      have serving : daemon.pool.serving = [] := by rw [pool]; rfl
      refine ⟨inOrder, ?_, by rw [ready.waiting]; rfl⟩
      rw [line, serving]
      exact Pool.inLine_nil plan.pool _
  | connect running connected inLine => exact (inLine.connect connected).2.1
  | @act daemon running number action inLine =>
      rcases daemon.served_or_not number with ⟨session, served⟩ | unserved
      · exact (inLine.act_served served action).1
      · exact (inLine.act_unserved unserved action).1
  | operate running operation inLine => exact inLine.operate operation
  | changeSite running change inLine => exact inLine.changeSite change

end Steps

section Holding

/-- What holds a connection back is that every worker has one that came earlier. -/
theorem InLine.busy (inLine : daemon.InLine plan) (heldBack : daemon.isHeldBack number = true) :
    daemon.pool.serving.length = plan.pool.size
      ∧ ∀ served ∈ daemon.pool.serving, served.1 < number := by
  obtain ⟨entry, member, rfl⟩ := List.mem_map.mp (isHeldBack_iff.mp heldBack)
  refine ⟨Nat.le_antisymm inLine.line.crewed ?_, fun served isServed =>
    inLine.line.earlier served isServed entry member⟩
  rcases inLine.inOrder.pool.settled.busy with empty | full
  · have waits : entry ∈ daemon.waiting := by
      rw [Daemon.line, empty] at member
      exact member
    have noRoom := inLine.inOrder.full.resolve_left (List.ne_nil_of_mem waits)
    rw [Pool.hasRoom, decide_eq_false_iff_not, empty, List.length_nil] at noRoom
    omega
  · exact full

/-- A new connection is held back exactly if no worker is free. -/
theorem InLine.isHeldBack_connect (inLine : daemon.InLine plan)
    (connected : daemon.connect plan = some (number, after)) :
    after.isHeldBack number = true ↔ plan.pool.size ≤ daemon.pool.serving.length := by
  obtain ⟨_, _, _, taken, events, lineEq, takes⟩ := inLine.connect connected
  rw [isHeldBack_iff]
  constructor
  · intro waits
    by_contra notFull
    have free := Nat.lt_of_not_le notFull
    have empty := inLine.inOrder.pool.settled.busy.resolve_right notFull
    have room : daemon.pool.hasRoom plan.pool = true := by
      rw [Pool.hasRoom, decide_eq_true_eq, empty, List.length_nil]
      omega
    have nothing : daemon.waiting = [] := inLine.inOrder.full.resolve_right (by simp [room])
    -- A free worker takes the connection up at once.
    unfold Daemon.connect at connected
    split at connected
    · obtain ⟨rfl, rfl⟩ := Prod.mk.inj (Option.some.inj connected)
      simp [proceed, submitFrom, nothing, room, Pool.submit, inLine.inOrder.pool.settled.running,
        Pool.proceed, empty, Pool.takeUpFrom, free, Daemon.line] at waits
    · cases connected
  · intro full
    obtain ⟨rfl, _⟩ := takes.busy full
    rw [← show daemon.line ++ [(number, ({} : Inbox))] = after.line from lineEq, List.map_append]
    exact List.mem_append_right _ (List.mem_singleton_self _)

theorem isOpen_iff : daemon.isOpen number = true ↔
    number ∈ daemon.pool.serving.map Prod.fst ∨ daemon.isHeldBack number = true := by
  simp [isOpen, isHeldBack, Daemon.line, or_assoc]

end Holding

/-- What has come on a connection since an earlier state. -/
def arrivalSince (later earlier : Daemon) (number : Nat) : Arrival :=
  let sight := Pool.sight (later.pool.eventsSince earlier.pool) number
  .received (Text.encode sight.received) sight.closed

section Sending

variable {later : Daemon} {bytes : List UInt8}

theorem isAnswered_arrivalSince_iff {events : List Pool.Event}
    (log : later.pool.log = daemon.pool.log ++ events) (link : Client.Link Nat) :
    Client.isAnswered link (later.arrivalSince daemon number) = true
      ↔ Turn.lineFeed ∈ link.unread ∨ ∃ event ∈ events, event.EndsWait number := by
  rw [arrivalSince, Pool.eventsSince, log, List.drop_left]
  exact Pool.isAnswered_sight_iff events number link

/-- A worker that has the connection responds to a whole line. -/
theorem InLine.send_served (inLine : daemon.InLine plan)
    (served : (number, session) ∈ daemon.pool.serving) (whole : Turn.lineFeed ∈ bytes) :
    let after := daemon.act plan number (.send bytes)
    number ∉ after.line.map Prod.fst
      ∧ ∃ events, after.pool.log = daemon.pool.log ++ events
          ∧ ∃ event ∈ events, event.EndsWait number := by
  intro after
  obtain ⟨_, _, taken, events, lineEq, takes⟩ := inLine.act_served served (.send bytes)
  let turn := Turn.hear plan.pool.service { session, limiter := daemon.pool.limiter } bytes
  have reachable : turn.session.reachable = true := by
    obtain ⟨_, _, _, samePeer⟩ :=
      Turn.goesOn_hear plan.pool.service { session, limiter := daemon.pool.limiter } bytes
    exact samePeer.trans (inLine.line.alive _ served).2
  obtain ⟨own, ownLog, _, responded⟩ :=
    Pool.exists_events_settle (daemon.pool.without number) number turn
  obtain ⟨event, member, ends⟩ :=
    responded reachable (Turn.responds_hear plan.pool.service whole)
  have log : after.pool.log = ((daemon.pool.without number).settle number turn).log ++ events :=
    takes.log
  refine ⟨?_, own ++ events, ?_, event, List.mem_append_left _ member, ends⟩
  · intro waits
    refine inLine.not_heldBack served ?_
    rw [lineEq, List.map_append]
    exact List.mem_append_right _ waits
  · rw [log, ownLog, List.append_assoc]
    rfl

/-- Sending a whole line leaves a call waiting exactly if no worker has its connection. -/
theorem InLine.exchange_unanswered_iff (inLine : daemon.InLine plan) (link : Client.Link Nat)
    (whole : Turn.lineFeed ∈ bytes) :
    Client.isAnswered link (daemon.exchange plan link.connection bytes).1 = false
      ↔ Turn.lineFeed ∉ link.unread ∧ daemon.isHeldBack link.connection = true := by
  unfold Daemon.exchange
  split
  · next isOpen =>
    let after := daemon.act plan link.connection (.send bytes)
    change Client.isAnswered link (after.arrivalSince daemon link.connection) = false ↔ _
    rw [← Bool.not_eq_true, isHeldBack_iff]
    rcases daemon.served_or_not link.connection with ⟨session, served⟩ | unserved
    · obtain ⟨_, events, log, responded⟩ := inLine.send_served served whole
      rw [isAnswered_arrivalSince_iff log]
      exact iff_of_false (fun waits => waits (.inr responded))
        fun held => inLine.not_heldBack served held.2
    · have heldBack := (isOpen_iff.mp isOpen).resolve_left unserved
      obtain ⟨_, _, _, log⟩ := inLine.act_unserved unserved (.send bytes)
      have silent : after.pool.log = daemon.pool.log ++ [] := by rw [log, List.append_nil]
      rw [isAnswered_arrivalSince_iff silent]
      simp [isHeldBack_iff.mp heldBack]
  · next isClosed =>
    refine iff_of_false Bool.noConfusion fun held => isClosed (isOpen_iff.mpr (.inr held.2))

end Sending

/-- Where a call is that has sent a whole line on a connection, by what has happened since and who
is in line. -/
inductive Awaits (number : Nat) (since : List Pool.Event) (line : List (Nat × Inbox)) : Prop where
  | waiting {inbox : Inbox} (held : (number, inbox) ∈ line) (present : inbox.gone = false)
      (whole : Turn.lineFeed ∈ inbox.bytes) (unseen : ∀ event ∈ since, event.number ≠ number)
  | answered (out : number ∉ line.map Prod.fst) (ended : ∃ event ∈ since, event.EndsWait number)

section Awaiting

variable {since own events : List Pool.Event} {line taken left : List (Nat × Inbox)}
  {before pool : Pool}

/-- A call waits no longer once a worker takes its connection up, and until then nothing happens on
it. -/
theorem Awaits.takes (awaits : Awaits number since (taken ++ left))
    (distinct : ((taken ++ left).map Prod.fst).Nodup)
    (takes : Pool.Takes plan.pool before taken events pool) :
    Awaits number (since ++ events) left := by
  rw [List.map_append] at distinct
  have apart := List.disjoint_of_nodup_append distinct
  cases awaits with
  | answered out ended =>
      rw [List.map_append, List.mem_append, not_or] at out
      obtain ⟨event, member, ends⟩ := ended
      exact .answered out.2 ⟨event, List.mem_append_left _ member, ends⟩
  | waiting held present whole unseen =>
      rcases List.mem_append.mp held with isTaken | stays
      · obtain ⟨event, member, ends⟩ := takes.responded _ isTaken present whole
        refine .answered ?_ ⟨event, List.mem_append_right _ member, ends⟩
        exact apart (List.mem_map.mpr ⟨_, isTaken, rfl⟩)
      · refine .waiting stays present whole fun event member same => ?_
        rcases List.mem_append.mp member with earlier | new
        · exact unseen event earlier same
        · exact apart (takes.own event new) (same ▸ List.mem_map.mpr ⟨_, stays, rfl⟩)

/-- What happens on other connections makes no difference. -/
theorem Awaits.others (awaits : Awaits number since line)
    (elsewhere : ∀ event ∈ own, event.number ≠ number) : Awaits number (since ++ own) line := by
  cases awaits with
  | answered out ended =>
      obtain ⟨event, member, ends⟩ := ended
      exact .answered out ⟨event, List.mem_append_left _ member, ends⟩
  | waiting held present whole unseen =>
      exact .waiting held present whole fun event member =>
        (List.mem_append.mp member).elim (unseen event) (elsewhere event)

/-- Nor does what other peers do in line. -/
theorem Awaits.onLine (awaits : Awaits number since line) {other : Nat}
    (different : other ≠ number) (action : PeerAction) :
    Awaits number since (Pool.onLine other action line) := by
  cases awaits with
  | answered out ended => exact .answered (by rwa [Pool.map_fst_onLine]) ended
  | waiting held present whole unseen =>
      exact .waiting (Pool.mem_onLine_of_ne different action held) present whole unseen

/-- Nor do those who come later. -/
theorem Awaits.arrive (awaits : Awaits number since line) {next : Nat} (known : number < next) :
    Awaits number since (line ++ [(next, ({} : Inbox))]) := by
  cases awaits with
  | answered out ended =>
      refine .answered ?_ ended
      rw [List.map_append, List.mem_append, not_or]
      exact ⟨out, fun last => Nat.ne_of_lt known (List.mem_singleton.mp last)⟩
  | waiting held present whole unseen =>
      exact .waiting (List.mem_append_left _ held) present whole unseen

end Awaiting

/-- A call that has sent a whole line on its connection, at a daemon later on. -/
structure Awaiting (plan : Plan) (opened : Daemon) (number : Nat) (later : Daemon) : Prop where
  inLine : later.InLine plan
  known : number < later.nextNumber
  awaits : ∃ since, later.pool.log = opened.pool.log ++ since ∧ Awaits number since later.line

/-- What a daemon comes to while the peer of one connection does nothing. -/
inductive Elsewhere (plan : Plan) (number : Nat) (sent : Daemon) : Daemon → Prop where
  | nothing : Elsewhere plan number sent sent
  | connect {later after : Daemon} {other : Nat} (earlier : Elsewhere plan number sent later)
      (connected : later.connect plan = some (other, after)) : Elsewhere plan number sent after
  | act {later : Daemon} (earlier : Elsewhere plan number sent later) {other : Nat}
      (different : other ≠ number) (action : PeerAction) :
      Elsewhere plan number sent (later.act plan other action)
  | operate {later : Daemon} (earlier : Elsewhere plan number sent later)
      (operation : Limiter.Operation) : Elsewhere plan number sent (later.operate plan operation)
  | changeSite {later : Daemon} (earlier : Elsewhere plan number sent later)
      (change : Site → Site) : Elsewhere plan number sent (later.changeSite change)

section Later

variable {opened sent later : Daemon} {other : Nat}

theorem Awaiting.connect (awaiting : Awaiting plan opened number later)
    (connected : later.connect plan = some (other, after)) :
    Awaiting plan opened number after := by
  obtain ⟨inLine, known, since, log, awaits⟩ := awaiting
  obtain ⟨rfl, inLineAfter, next, taken, events, lineEq, takes⟩ := inLine.connect connected
  have arrived := awaits.arrive known
  have distinct := inLine.line.arrive.distinct
  rw [lineEq] at arrived distinct
  refine ⟨inLineAfter, by omega, since ++ events, ?_, arrived.takes distinct takes⟩
  rw [takes.log, log, List.append_assoc]

theorem Awaiting.act (awaiting : Awaiting plan opened number later) (different : other ≠ number)
    (action : PeerAction) : Awaiting plan opened number (later.act plan other action) := by
  obtain ⟨inLine, known, since, log, awaits⟩ := awaiting
  rcases later.served_or_not other with ⟨session, served⟩ | unserved
  · obtain ⟨inLineAfter, next, taken, events, lineEq, takes⟩ := inLine.act_served served action
    obtain ⟨own, ownLog, onOther, _⟩ := Pool.exists_events_settle (later.pool.without other) other
      (action.onTurn plan.pool.service { session, limiter := later.pool.limiter })
    have turned := awaits.others fun event member same =>
      different ((onOther event member).symm.trans same)
    have distinct := inLine.line.distinct
    rw [lineEq] at turned distinct
    refine ⟨inLineAfter, next ▸ known, since ++ own ++ events, ?_, turned.takes distinct takes⟩
    rw [takes.log, ownLog, show (later.pool.without other).log = _ from log]
    simp only [List.append_assoc]
  · obtain ⟨inLineAfter, next, lineEq, sameLog⟩ := inLine.act_unserved unserved action
    refine ⟨inLineAfter, next ▸ known, since, sameLog.trans log, ?_⟩
    rw [lineEq]
    exact awaits.onLine different action

/-- Whatever happens elsewhere. -/
theorem Elsewhere.awaiting (elsewhere : Elsewhere plan number sent later)
    (awaiting : Awaiting plan opened number sent) : Awaiting plan opened number later := by
  induction elsewhere with
  | nothing => exact awaiting
  | connect _ connected inductionHypothesis => exact inductionHypothesis.connect connected
  | act _ different action inductionHypothesis => exact inductionHypothesis.act different action
  | operate _ operation inductionHypothesis =>
      obtain ⟨inLine, known, awaits⟩ := inductionHypothesis
      exact ⟨inLine.operate operation, known, awaits⟩
  | changeSite _ change inductionHypothesis =>
      obtain ⟨inLine, known, awaits⟩ := inductionHypothesis
      exact ⟨inLine.changeSite change, known, awaits⟩

/-- A call that opens a connection and sends a whole line on it. -/
theorem InLine.awaiting_of_connect (inLine : daemon.InLine plan) {bytes : List UInt8}
    (connected : daemon.connect plan = some (number, opened)) (isOpen : opened.isOpen number = true)
    (whole : Turn.lineFeed ∈ bytes) :
    Awaiting plan opened number (opened.act plan number (.send bytes)) := by
  obtain ⟨rfl, inLineOpened, next, taken, _, lineEq, _⟩ := inLine.connect connected
  have known : daemon.nextNumber < opened.nextNumber := by omega
  rcases opened.served_or_not daemon.nextNumber with ⟨session, served⟩ | unserved
  · obtain ⟨inLineSent, nextSent, _⟩ := inLineOpened.act_served served (.send bytes)
    obtain ⟨out, since, log, ended⟩ := inLineOpened.send_served served whole
    exact ⟨inLineSent, nextSent ▸ known, since, log, .answered out ended⟩
  · obtain ⟨inLineSent, nextSent, lineSent, log⟩ := inLineOpened.act_unserved unserved (.send bytes)
    have heldBack := isHeldBack_iff.mp ((isOpen_iff.mp isOpen).resolve_left unserved)
    obtain ⟨⟨_, inbox⟩, member, rfl⟩ := List.mem_map.mp heldBack
    -- Nothing was done yet on the connection in line.
    have fresh : inbox = {} := by
      have arrived := List.mem_append_right taken member
      rw [← lineEq] at arrived
      rcases List.mem_append.mp arrived with earlier | last
      · have given := inLine.line.given _
          (List.mem_append_right _ (List.mem_map.mpr ⟨_, earlier, rfl⟩))
        exact absurd given (Nat.lt_irrefl _)
      · exact (Prod.mk.inj (List.mem_singleton.mp last)).2
    have held : (daemon.nextNumber, ({ bytes } : Inbox))
        ∈ (opened.act plan daemon.nextNumber (.send bytes)).line := by
      rw [lineSent]
      exact List.mem_map.mpr ⟨_, member, by rw [fresh]; exact if_pos rfl⟩
    exact ⟨inLineSent, nextSent ▸ known, [], by rw [log, List.append_nil],
      .waiting held rfl whole fun _ member => nomatch member⟩

/-- A call waits exactly as long as its connection is held back. -/
theorem Awaiting.isAnswered_eq (awaiting : Awaiting plan opened number later) :
    Client.isAnswered ⟨number, []⟩ (later.arrivalSince opened number)
      = !later.isHeldBack number := by
  obtain ⟨_, _, since, log, awaits⟩ := awaiting
  rw [Bool.eq_iff_iff, isAnswered_arrivalSince_iff log, Bool.not_eq_true', ← Bool.not_eq_true,
    isHeldBack_iff]
  cases awaits with
  | answered out ended => exact iff_of_true (.inr ended) out
  | waiting held _ _ unseen =>
      refine iff_of_false ?_ (not_not_intro (List.mem_map.mpr ⟨_, held, rfl⟩))
      rintro (unread | ⟨event, member, ends⟩)
      · cases unread
      · refine unseen event member ?_
        cases event with
        | exchanged _ _ _ => exact ends.1
        | closed _ _ => exact ends.1

end Later

section Calls

/-- A call is left waiting exactly if no worker has its connection once its request is sent. -/
theorem Running.call_unanswered_iff (running : daemon.Running plan) (link : Client.Link Nat)
    (errand : Client.Errand) :
    (errand.carryOut (transport plan) ⟨some link⟩ daemon).outcome = .unanswered
      ↔ Turn.lineFeed ∉ link.unread ∧ daemon.isHeldBack link.connection = true := by
  obtain ⟨body, line, _⟩ := errand.exists_line
  have whole : Turn.lineFeed ∈ errand.line :=
    line ▸ List.mem_append_right _ (List.mem_singleton_self _)
  rw [errand.carryOut_eq, Client.Errand.conclude_eq_unanswered_iff]
  exact (Client.settle_outcome_eq_unanswered_iff ..).trans
    (running.inLine.exchange_unanswered_iff link whole)

/-- A call on a running daemon is left waiting exactly if every worker serves another connection
when it opens its own, or if the connection that it has is held back. It is left waiting exactly as
long as its connection is held back, whatever else happens, and so long every worker serves a
connection that was opened earlier. -/
theorem Running.unanswered_iff_heldBack (running : daemon.Running plan) (client : Client Nat)
    (errand : Client.Errand) :
    ((errand.carryOut (transport plan) client daemon).outcome = .unanswered ↔
      match client.link with
      | none => daemon.isReachable = true ∧ plan.pool.size ≤ daemon.pool.serving.length
      | some link => Turn.lineFeed ∉ link.unread ∧ daemon.isHeldBack link.connection = true)
    ∧ ∀ number opened, daemon.connect plan = some (number, opened) →
        opened.isOpen number = true →
        ∀ later, Elsewhere plan number (opened.act plan number (.send errand.line)) later →
          let after := Client.settle (transport plan) ⟨number, []⟩ later
            (later.arrivalSince opened number) errand.accept
          (errand.conclude after.outcome = .unanswered ↔ later.isHeldBack number = true)
            ∧ (later.isHeldBack number = true →
                later.pool.serving.length = plan.pool.size
                  ∧ ∀ served ∈ later.pool.serving, served.1 < number) := by
  obtain ⟨body, line, _⟩ := errand.exists_line
  have whole : Turn.lineFeed ∈ errand.line :=
    line ▸ List.mem_append_right _ (List.mem_singleton_self _)
  constructor
  · obtain ⟨link⟩ := client
    cases link with
    | some link => exact running.call_unanswered_iff link errand
    | none =>
        dsimp only
        cases connected : daemon.connect plan with
        | none =>
            have unreachable : daemon.isReachable = false := by
              refine Bool.eq_false_iff.mpr fun reachable => ?_
              simp [Daemon.connect, reachable] at connected
            have failed : Client.call (transport plan) {} daemon errand.request errand.accept
                = ⟨.failed .transport, {}, daemon⟩ := by
              simp [Client.call, Client.ensureLink, transport, connected]
            rw [errand.carryOut_eq, Client.Errand.conclude_eq_unanswered_iff, failed]
            simp [unreachable]
        | some entry =>
            obtain ⟨number, opened⟩ := entry
            have reachable : daemon.isReachable = true := by
              by_contra unreachable
              simp [Daemon.connect, unreachable] at connected
            have called : (errand.carryOut (transport plan) {} daemon).outcome
                = (errand.carryOut (transport plan) ⟨some ⟨number, []⟩⟩ opened).outcome := by
              simp [errand.carryOut_eq, Client.call, Client.ensureLink, transport, connected]
            rw [called, (running.connect connected).call_unanswered_iff,
              running.inLine.isHeldBack_connect connected]
            simp [reachable]
  · intro number opened connected isOpen later elsewhere after
    have awaiting := elsewhere.awaiting (running.inLine.awaiting_of_connect connected isOpen whole)
    refine ⟨?_, awaiting.inLine.busy⟩
    rw [Client.Errand.conclude_eq_unanswered_iff, Client.settle_outcome_eq_unanswered_iff,
      awaiting.isAnswered_eq, Bool.not_eq_false']

/-- With one worker, a call waits while another connection is open and is answered when it ends. -/
theorem Running.unanswered_iff_heldBack_of_two :
    let plan : Plan := ⟨⟨⟨⟨1, 300, 1, Limiter.usualDecrease⟩, 1024⟩, 1⟩, 0⟩
    let bound : Daemon := .fresh plan { entry := .socket }
    let first : Daemon :=
      { bound with pool := { bound.pool with arrivals := 1, serving := [(0, {})] } }
    let opened : Daemon :=
      { first with pool := { first.pool with arrivals := 2, queue := [(1, {})] } }
    let sent := opened.act plan 1 (.send Client.Errand.stats.line)
    let outcome (later : Daemon) := Client.Errand.stats.conclude
      (Client.settle (transport plan) ⟨1, []⟩ later (later.arrivalSince opened 1)
        Client.Errand.stats.accept).outcome
    first.Running plan ∧ first.connect plan = some (1, opened) ∧ opened.isOpen 1 = true
      ∧ (Client.Errand.stats.carryOut (transport plan) {} first).outcome = .unanswered
      ∧ outcome sent = .unanswered ∧ sent.pool.serving.length = 1
      ∧ outcome (sent.act plan 0 .leave) ≠ .unanswered := by
  intro plan bound first opened sent outcome
  have started : Daemon.start plan {} = .bound bound := by decide +kernel
  have connectedFirst : bound.connect plan = some (0, first) := by decide +kernel
  have connected : first.connect plan = some (1, opened) := by decide +kernel
  have isOpen : opened.isOpen 1 = true := by decide +kernel
  have running : first.Running plan := .connect (.start started) connectedFirst
  obtain ⟨waits, onceOpened⟩ := running.unanswered_iff_heldBack {} .stats
  have held : sent.isHeldBack 1 = true := by decide +kernel
  have freed : (sent.act plan 0 .leave).isHeldBack 1 = false := by decide +kernel
  obtain ⟨untilThen, busy⟩ := onceOpened 1 opened connected isOpen sent .nothing
  obtain ⟨afterwards, _⟩ := onceOpened 1 opened connected isOpen (sent.act plan 0 .leave)
    (.act .nothing (by decide) .leave)
  refine ⟨running, connected, isOpen, waits.mpr ⟨by decide, by decide⟩, untilThen.mpr held,
    (busy held).1, fun unanswered => ?_⟩
  rw [afterwards.mp unanswered] at freed
  cases freed

/-- The only worker stays with a client that has its answer, and another client that asks for
admission waits for it. -/
theorem waits_for_idle_client :
    let plan : Plan := ⟨⟨⟨⟨1, 300, 1, Limiter.usualDecrease⟩, 1024⟩, 1⟩, 0⟩
    let bound : Daemon := .fresh plan { entry := .socket }
    let clientele : Clientele 2 := { daemon := bound, clients := fun _ => {} }
    let after := clientele.run plan [.call 0 .stats, .call 1 (.admission .anonymous)]
    start plan {} = .bound bound
      ∧ after.outcomes = [.returned (.state ⟨1, 0, false⟩), .unanswered]
      ∧ (after.clients 0).link = some ⟨0, []⟩ ∧ after.daemon.pool.serving = [(0, {})]
      ∧ after.daemon.isReachable = true ∧ after.daemon.pool.phase = .running := by
  decide +kernel

end Calls

end Daemon

end AdmissionControl
