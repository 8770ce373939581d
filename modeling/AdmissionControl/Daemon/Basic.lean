import AdmissionControl.Client.Basic
import AdmissionControl.Daemon.Site
import AdmissionControl.Pool.Basic

/-!
# The daemon

A daemon listens on a socket and submits the connections it accepts to its worker pool, in order.
While the pool has no room, one accepted connection waits for it and further ones wait to be
accepted; their peers can send already. Stopping closes all of them, drains the pool and removes the
socket.
-/

namespace AdmissionControl

/-- What a daemon is set up with. -/
structure Daemon.Plan where
  pool : Pool.Plan
  /-- How long a stopping daemon waits for lines that have begun. -/
  drainMilliseconds : Nat

/-- The state of a daemon that has been bound. -/
structure Daemon where
  site : Site
  listening : Bool := true
  pool : Pool
  /-- Connections that are not submitted yet. -/
  waiting : List (Nat × Inbox) := []
deriving DecidableEq

namespace Daemon

/-- What became of an attempt to start a daemon. -/
inductive Start where
  | bound (daemon : Daemon)
  | refused (obstacle : Obstacle) (site : Site)
deriving DecidableEq

/-- A daemon that has just been bound to a site. -/
def fresh (plan : Plan) (site : Site) : Daemon := { site, pool := .fresh plan.pool }

/-- Binds a daemon to its site. -/
def start (plan : Plan) (site : Site) : Start :=
  match site.bind with
  | ⟨none, site⟩ => .bound (.fresh plan site)
  | ⟨some obstacle, site⟩ => .refused obstacle site

/-- The limiter of the daemon. -/
def limiter (daemon : Daemon) : Limiter := daemon.pool.limiter

/-- Submits waiting connections while the pool has room. -/
def submitFrom (plan : Plan) (daemon : Daemon) : List (Nat × Inbox) → Daemon
  | [] => { daemon with waiting := [] }
  | (number, inbox) :: rest =>
      if daemon.pool.hasRoom plan.pool then
        submitFrom plan { daemon with pool := (daemon.pool.submit plan.pool inbox).pool } rest
      else
        { daemon with waiting := (number, inbox) :: rest }

/-- Lets the daemon go on to what follows from the last change. -/
def proceed (plan : Plan) (daemon : Daemon) : Daemon := daemon.submitFrom plan daemon.waiting

/-- The number that the next connection takes: connections are numbered as they arrive. -/
def nextNumber (daemon : Daemon) : Nat := daemon.pool.arrivals + daemon.waiting.length

/-- Whether a connection can be opened. -/
def isReachable (daemon : Daemon) : Bool := daemon.listening && daemon.site.entry == .socket

/-- Opens a connection, if the socket is there and someone listens on it. -/
def connect (plan : Plan) (daemon : Daemon) : Option (Nat × Daemon) :=
  if daemon.isReachable then
    let number := daemon.nextNumber
    some (number, proceed plan { daemon with waiting := daemon.waiting ++ [(number, {})] })
  else
    none

/-- A peer acts on its connection. -/
def act (plan : Plan) (daemon : Daemon) (number : Nat) (action : PeerAction) : Daemon :=
  proceed plan
    { daemon with
      pool := daemon.pool.act plan.pool number action
      waiting := daemon.waiting.map fun entry =>
        if entry.1 = number then (number, action.onInbox entry.2) else entry }

/-- Whether the daemon has not closed its end of a connection. -/
def isOpen (daemon : Daemon) (number : Nat) : Bool :=
  daemon.pool.serving.any (·.1 == number) || daemon.pool.queue.any (·.1 == number)
    || daemon.waiting.any (·.1 == number)

/-- An admission attempt of the process that the daemon runs in, not made over a connection. -/
def acquire (daemon : Daemon) : Limiter.Decision × Daemon :=
  let decision := daemon.limiter.acquire
  (decision, { daemon with pool := { daemon.pool with limiter := decision.state } })

/-- How stopping went, and the daemon after it. -/
structure Stop where
  drained : Bool
  daemon : Daemon

/-- Stops a daemon that listens. -/
def stop (plan : Plan) (daemon : Daemon) : Stop :=
  let drain := (daemon.pool.turnAway daemon.waiting).shutdown plan.pool plan.drainMilliseconds
  ⟨drain.drained,
    { site := daemon.site.remove, listening := false, pool := drain.pool, waiting := [] }⟩

/-- Gives up a daemon that was bound but never served. -/
def discard (daemon : Daemon) : Daemon :=
  { daemon with
    site := daemon.site.remove, listening := false, pool := daemon.pool.turnAway daemon.waiting,
    waiting := [] }

/-- Changes what lies at the site from outside. -/
def changeSite (daemon : Daemon) (change : Site → Site) : Daemon :=
  { daemon with site := change daemon.site }

/-- Sends bytes on a connection and takes what comes back. -/
def exchange (plan : Plan) (daemon : Daemon) (number : Nat) (bytes : List UInt8) :
    Arrival × Daemon :=
  if daemon.isOpen number then
    let after := daemon.act plan number (.send bytes)
    let sight := Pool.sight (after.pool.eventsSince daemon.pool) number
    (.received (Text.encode sight.received) sight.closed, after)
  else
    (.refused, daemon)

/-- Connections to a daemon, as a client uses them. -/
def transport (plan : Plan) : Transport Daemon Nat where
  connect := connect plan
  send := exchange plan
  hangUp daemon number := daemon.act plan number .leave

end Daemon

end AdmissionControl
