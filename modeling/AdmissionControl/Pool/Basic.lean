import AdmissionControl.Session.Basic

/-!
# The worker pool

A fixed number of workers each serve one connection at a time until it ends. Further connections
wait in a queue of the same length, first in, first out. Connections are numbered in the order of
their submission, and the log records all that happened to them, so a run can be read off its final
state. Here all that follows from a step follows at once: a reply arrives before anything else is
done, and workers hear of a shutdown as it begins. A shift takes these steps apart.
-/

namespace AdmissionControl

open Wire

/-- What a peer has done on a connection that no worker has taken up yet. -/
structure Inbox where
  bytes : List UInt8 := []
  /-- Whether the peer has finished sending. -/
  ended : Bool := false
  /-- Whether the peer can no longer receive. -/
  gone : Bool := false
deriving DecidableEq

/-- The turn of a worker that takes up a connection: it catches up with the peer. -/
def Inbox.takeUp (service : Service) (limiter : Limiter) (inbox : Inbox) : Turn :=
  let turn :=
    Turn.hear service { session := .opening (!inbox.gone) false, limiter } inbox.bytes
  if inbox.ended then { turn with session := turn.session.hearEnd } else turn

/-- What a peer can do on its connection. -/
inductive PeerAction where
  | send (bytes : List UInt8)
  /-- Finishes sending, still ready to receive. -/
  | finish
  /-- Closes the connection on its side. -/
  | leave
deriving DecidableEq

namespace PeerAction

/-- The effect on a connection that waits. -/
def onInbox (inbox : Inbox) : PeerAction → Inbox
  | .send bytes => if inbox.ended then inbox else { inbox with bytes := inbox.bytes ++ bytes }
  | .finish => { inbox with ended := true }
  | .leave => { inbox with ended := true, gone := true }

/-- The effect on a connection that is being served. -/
def onTurn (service : Service) (turn : Turn) : PeerAction → Turn
  | .send bytes => turn.hear service bytes
  | .finish => { turn with session := turn.session.hearEnd }
  | .leave => { turn with session := { turn.session.hearEnd with reachable := false } }

end PeerAction

namespace Pool

/-- What a pool is set up with. -/
structure Plan where
  service : Service
  workers : Nat

/-- The number of workers, which is at least one; the queue holds as many connections. -/
def Plan.size (plan : Plan) : Nat := max 1 plan.workers

theorem Plan.size_pos (plan : Plan) : 0 < plan.size := Nat.le_max_left 1 plan.workers

/-- What happened to a numbered connection. -/
inductive Event where
  /-- A line was taken and a reply sent; it arrived if the peer could still receive. -/
  | exchanged (number : Nat) (exchange : Exchange) (delivered : Bool)
  /-- The daemon closed its end; the peer sees it unless it is gone. -/
  | closed (number : Nat) (seen : Bool)
deriving DecidableEq

/-- The connection of an event. -/
def Event.number : Event → Nat
  | .exchanged number _ _ => number
  | .closed number _ => number

/-- Where a pool is in its life. -/
inductive Phase where
  | running
  /-- Lines that had begun are being waited for. -/
  | draining
  | stopped
deriving DecidableEq

end Pool

/-- The state of a pool. -/
structure Pool where
  /-- How many connections were submitted; the next one takes this number. -/
  arrivals : Nat := 0
  serving : List (Nat × Session) := []
  queue : List (Nat × Inbox) := []
  limiter : Limiter
  phase : Pool.Phase := .running
  log : List Pool.Event := []
deriving DecidableEq

namespace Pool

/-- A pool before its first connection. -/
def fresh (plan : Plan) : Pool := { limiter := .fresh plan.service.tuning }

/-- How many workers have not ended. -/
def workers (plan : Plan) (pool : Pool) : Nat :=
  match pool.phase with
  | .running => plan.size
  | .draining => pool.serving.length
  | .stopped => 0

/-- Whether another connection can be submitted without waiting. -/
def hasRoom (plan : Plan) (pool : Pool) : Bool :=
  decide (pool.serving.length + pool.queue.length < 2 * plan.size)

/-- Records what a turn did. A session that is over frees its worker. -/
def settle (pool : Pool) (number : Nat) (turn : Turn) : Pool :=
  let exchanges := turn.exchanges.map (Event.exchanged number · turn.session.reachable)
  if turn.session.isOver then
    { pool with
      limiter := turn.limiter
      log := pool.log ++ exchanges ++ [.closed number turn.session.reachable] }
  else
    { pool with
      limiter := turn.limiter
      serving := pool.serving ++ [(number, turn.session)]
      log := pool.log ++ exchanges }

/-- Hands waiting connections to free workers in order. -/
def takeUpFrom (plan : Plan) (pool : Pool) : List (Nat × Inbox) → Pool
  | [] => { pool with queue := [] }
  | (number, inbox) :: rest =>
      if pool.serving.length < plan.size then
        takeUpFrom plan (pool.settle number (inbox.takeUp plan.service pool.limiter)) rest
      else
        { pool with queue := (number, inbox) :: rest }

/-- Closes connections unread. -/
def turnAway (pool : Pool) (connections : List (Nat × Inbox)) : Pool :=
  { pool with
    log := pool.log ++ connections.map fun entry => Event.closed entry.1 (!entry.2.gone) }

/-- Lets the workers go on to what follows from the last change: a running pool takes up waiting
connections, and a draining one stops when its last session is over. -/
def proceed (plan : Plan) (pool : Pool) : Pool :=
  match pool.phase with
  | .running => pool.takeUpFrom plan pool.queue
  | .draining =>
      if pool.serving.isEmpty then
        { pool.turnAway pool.queue with queue := [], phase := .stopped }
      else
        pool
  | .stopped => pool

/-- What became of a submission. -/
inductive Outcome where
  | queued
  /-- Every worker is busy and the queue is full. -/
  | full
  | refused (fault : Fault)
deriving DecidableEq

/-- A submission's outcome and the pool after it. -/
structure Submission where
  outcome : Outcome
  pool : Pool

/-- Submits a connection. One that cannot be queued is closed. -/
def submit (plan : Plan) (pool : Pool) (inbox : Inbox) : Submission :=
  let connection := (pool.arrivals, inbox)
  let counted := { pool with arrivals := pool.arrivals + 1 }
  if pool.phase ≠ .running then
    ⟨.refused .poolShutDown, counted.turnAway [connection]⟩
  else if pool.hasRoom plan then
    ⟨.queued, proceed plan { counted with queue := pool.queue ++ [connection] }⟩
  else
    ⟨.full, counted.turnAway [connection]⟩

/-- A peer acts on its connection. An action on a connection that is over does nothing. -/
def act (plan : Plan) (pool : Pool) (number : Nat) (action : PeerAction) : Pool :=
  match pool.serving.lookup number with
  | some session =>
      let others := { pool with serving := pool.serving.filter (·.1 ≠ number) }
      let turn := action.onTurn plan.service { session, limiter := pool.limiter }
      proceed plan (others.settle number turn)
  | none =>
      { pool with
        queue := pool.queue.map fun entry =>
          if entry.1 = number then (number, action.onInbox entry.2) else entry }

/-- Changes every session and closes those that are over. -/
def changeSessions (pool : Pool) (change : Session → Session) : Pool :=
  let changed := pool.serving.map fun entry => (entry.1, change entry.2)
  let ended := changed.filter fun entry => entry.2.isOver
  { pool with
    serving := changed.filter fun entry => !entry.2.isOver
    log := pool.log ++ ended.map fun entry => Event.closed entry.1 entry.2.reachable }

/-- Begins to shut down: connections between lines are closed, those inside a line wait for it. -/
def beginShutdown (plan : Plan) (pool : Pool) : Pool :=
  match pool.phase with
  | .running => proceed plan { pool.changeSessions Session.stop with phase := .draining }
  | _ => pool

/-- Ends a shutdown that still waits: what has begun is given up. -/
def endShutdown (plan : Plan) (pool : Pool) : Pool :=
  match pool.phase with
  | .draining => proceed plan (pool.changeSessions Session.abort)
  | _ => pool

/-- Whether a shutdown came to its end by itself, and the pool after it. -/
structure Drain where
  drained : Bool
  pool : Pool

/-- Shuts down and lets the time for waiting pass. An empty time has passed by itself. -/
def shutdown (plan : Plan) (pool : Pool) (milliseconds : Nat) : Drain :=
  let begun := pool.beginShutdown plan
  ⟨begun.phase == .stopped || milliseconds == 0, begun.endShutdown plan⟩

/-- What a peer saw of its connection. -/
structure Sight where
  received : List Char
  closed : Bool
deriving DecidableEq

/-- What the peer of a connection saw in the course of events. -/
def sight (events : List Event) (number : Nat) : Sight where
  received := events.flatMap fun
    | .exchanged other exchange delivered =>
        if other = number ∧ delivered then exchange.reply else []
    | .closed _ _ => []
  closed := events.contains (.closed number true)

/-- Whether there was anything to see. -/
def Sight.isEmpty (sight : Sight) : Bool := sight.received.isEmpty && !sight.closed

/-- The events since an earlier state of a pool. -/
def eventsSince (pool earlier : Pool) : List Event := pool.log.drop earlier.log.length

end Pool

end AdmissionControl
