import AdmissionControl.Pool.Basic

/-!
# The workers of a pool

Here each worker is kept apart, and nothing follows by itself: a connection that was queued waits
until some idle worker takes it, and peers act and connections come in between. A worker goes back
to the queue after every connection but one that ended with the daemon. Peers and workers are as in
a pool that is not shut down.
-/

namespace AdmissionControl

/-- What a worker does. -/
inductive Worker where
  /-- It waits for a connection. -/
  | idle
  | serving (number : Nat) (session : Session)
  /-- It takes no connection any more. -/
  | stopped
deriving DecidableEq

namespace Worker

/-- What a worker does after a turn with a session. -/
def after (number : Nat) (session : Session) : Worker :=
  match session.ending with
  | none => .serving number session
  | some .shutDown | some .aborted => .stopped
  | some .closed | some .lost | some (.refused _) => .idle

/-- The connection that a worker has. -/
def connection? : Worker → Option (Nat × Session)
  | .serving number session => some (number, session)
  | .idle | .stopped => none

end Worker

/-- The workers of a pool and their queue, and who has served whom. -/
structure Crew where
  /-- How many connections were submitted; the next one takes this number. -/
  arrivals : Nat := 0
  workers : List Worker
  queue : List (Nat × Inbox) := []
  limiter : Limiter
  log : List Pool.Event := []
  /-- The connections that were queued, in their order. -/
  accepted : List Nat := []
  /-- Which worker took which connection, in the order in which this happened. -/
  starts : List (Nat × Nat) := []
deriving DecidableEq

namespace Crew

open Pool (Plan Event)

/-- The workers before the first connection. -/
def fresh (plan : Plan) : Crew :=
  { workers := List.replicate plan.size .idle, limiter := .fresh plan.service.tuning }

/-- The connections that workers have. -/
def served (crew : Crew) : List (Nat × Session) := crew.workers.filterMap Worker.connection?

/-- How many workers have not stopped. -/
def running (crew : Crew) : Nat := crew.workers.countP (· ≠ .stopped)

/-- Whether a submission need not wait. -/
def hasRoom (plan : Plan) (crew : Crew) : Bool := decide (crew.queue.length < plan.size)

/-- Submits a connection. If it has to wait, it is given up and closed. -/
def submit (plan : Plan) (crew : Crew) (inbox : Inbox) : Crew :=
  let counted := { crew with arrivals := crew.arrivals + 1 }
  if crew.hasRoom plan then
    { counted with
      queue := crew.queue ++ [(crew.arrivals, inbox)]
      accepted := crew.accepted ++ [crew.arrivals] }
  else
    { counted with log := crew.log ++ [.closed crew.arrivals (!inbox.gone)] }

/-- Records what a worker did in a turn. -/
def settle (crew : Crew) (worker number : Nat) (turn : Turn) : Crew :=
  let exchanges := turn.exchanges.map (Event.exchanged number · turn.session.reachable)
  let ending := if turn.session.isOver then [Event.closed number turn.session.reachable] else []
  { crew with
    workers := crew.workers.set worker (.after number turn.session)
    limiter := turn.limiter
    log := crew.log ++ exchanges ++ ending }

/-- A worker takes the first connection of the queue, if it is idle. -/
def take (plan : Plan) (crew : Crew) (worker : Nat) : Crew :=
  match crew.workers[worker]?, crew.queue with
  | some .idle, (number, inbox) :: rest =>
      { crew with queue := rest, starts := crew.starts ++ [(worker, number)] }.settle worker number
        (inbox.takeUp plan.service crew.limiter)
  | _, _ => crew

/-- The peer of the connection that a worker has does something. -/
def hear (plan : Plan) (crew : Crew) (worker : Nat) (action : PeerAction) : Crew :=
  match crew.workers[worker]? with
  | some (.serving number session) =>
      crew.settle worker number
        (action.onTurn plan.service { session, limiter := crew.limiter })
  | _ => crew

/-- The peer of a connection in the queue does something. -/
def wait (crew : Crew) (number : Nat) (action : PeerAction) : Crew :=
  { crew with
    queue := crew.queue.map fun entry =>
      if entry.1 = number then (number, action.onInbox entry.2) else entry }

/-- What can happen next. -/
inductive Action where
  | submit (inbox : Inbox)
  | hear (worker : Nat) (action : PeerAction)
  | wait (number : Nat) (action : PeerAction)
  | take (worker : Nat)

/-- Lets something happen. -/
def perform (plan : Plan) (crew : Crew) : Action → Crew
  | .submit inbox => crew.submit plan inbox
  | .hear worker action => crew.hear plan worker action
  | .wait number action => crew.wait number action
  | .take worker => crew.take plan worker

/-- The workers after actions, from their start. -/
def run (plan : Plan) (actions : List Action) : Crew := actions.foldl (perform plan) (fresh plan)

end Crew

end AdmissionControl
