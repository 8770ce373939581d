import AdmissionControl.Pool.Basic

/-!
# The workers step by step

Here nothing follows by itself, and every step is small. A worker reads one byte at a time of what has
come, and sends a reply character by character, as the peer takes it. Between any two steps of one
worker the others work on the limiter, and peers send, finish or leave, so a reply may find no one any
more after the limiter has moved, or wait until it is given up. A shutdown begins before the workers
hear of it: each of them reads on until it does, or until it looks before its next line.
-/

namespace AdmissionControl

/-- A connection in the hands of a worker. -/
structure Charge where
  number : Nat
  /-- What the peer has done that the worker has not looked at. -/
  inbox : Inbox
  session : Session
  /-- What has not been sent yet of the last reply. -/
  unsent : List Char := []
deriving DecidableEq

namespace Charge

/-- A connection that is taken up. It is over at once when the daemon is already shutting down. -/
def opening (stopping : Bool) (number : Nat) (inbox : Inbox) : Charge :=
  { number, inbox, session := .opening true stopping }

/-- Whether the worker is done with the connection. -/
def isDone (charge : Charge) : Bool := charge.session.isOver && charge.unsent.isEmpty

/-- The worker's turn with the next byte that has come, or with the end of the stream. -/
def turn (service : Service) (limiter : Limiter) (charge : Charge) : Turn :=
  let heard :=
    Turn.hear service { session := charge.session, limiter } (charge.inbox.bytes.take 1)
  if charge.inbox.ended && charge.inbox.bytes.isEmpty then
    { heard with session := heard.session.hearEnd }
  else heard

/-- The connection after such a turn. The reply to a line that it took is still to be sent. -/
def afterTurn (charge : Charge) (turn : Turn) : Charge :=
  { charge with
    inbox := { charge.inbox with bytes := charge.inbox.bytes.tail }
    session := turn.session
    unsent := turn.exchanges.flatMap Exchange.reply }

/-- The connection when all but the rest of a reply is sent. Once nothing is left, the worker looks
whether the daemon is shutting down before it turns to the next line. -/
def withUnsent (charge : Charge) (rest : List Char) : Charge :=
  { charge with
    session :=
      if rest.isEmpty && charge.session.stopping then charge.session.heed else charge.session
    unsent := rest }

/-- Hears of a shutdown while it reads. -/
def heed (charge : Charge) : Charge := { charge with session := charge.session.heed }

/-- Ends the connection without the rest of a line or of a reply. -/
def giveUp (charge : Charge) (ending : Session.Ending) : Charge :=
  { charge with
    session := { charge.session with partialLine := [], ending := some ending }
    unsent := [] }

/-- What the peer does stays unlooked at for now. -/
def onPeer (number : Nat) (action : PeerAction) (charge : Charge) : Charge :=
  if charge.number = number then { charge with inbox := action.onInbox charge.inbox } else charge

/-- The daemon begins to shut down, of which the worker does not know yet. -/
def signal (charge : Charge) : Charge := { charge with session := charge.session.signal }

end Charge

/-- What a worker has to do. -/
inductive Duty where
  /-- It waits for a connection. -/
  | idle
  | busy (charge : Charge)
  /-- It takes no connection any more. -/
  | stopped
deriving DecidableEq

namespace Duty

/-- What a worker turns to with a connection. Done with it, it goes back to the queue, unless the
connection ended with the daemon. -/
def after (charge : Charge) : Duty :=
  if charge.isDone then
    match charge.session.ending with
    | some .shutDown | some .aborted => .stopped
    | some .closed | some .lost | some (.refused _) | none => .idle
  else .busy charge

/-- The connection that a worker has. -/
def charge? : Duty → Option Charge
  | .busy charge => some charge
  | .idle | .stopped => none

/-- Changes the connection that a worker has. -/
def onCharge (change : Charge → Charge) : Duty → Duty
  | .busy charge => .busy (change charge)
  | .idle => .idle
  | .stopped => .stopped

end Duty

namespace Shift

/-- What happened to a numbered connection. -/
inductive Event where
  /-- A line was answered or refused. -/
  | taken (number : Nat) (exchange : Exchange)
  /-- A character of a reply was sent. -/
  | sent (number : Nat) (character : Char)
  /-- The daemon closed its end. A connection that no worker has taken up has no ending. -/
  | closed (number : Nat) (ending : Option Session.Ending)
deriving DecidableEq

end Shift

/-- The workers of a pool and their queue. -/
structure Shift where
  /-- How many connections were submitted; the next one takes this number. -/
  arrivals : Nat := 0
  duties : List Duty
  queue : List (Nat × Inbox) := []
  limiter : Limiter
  phase : Pool.Phase := .running
  log : List Shift.Event := []
deriving DecidableEq

namespace Shift

open Pool (Plan)

/-- The workers before the first connection. -/
def fresh (plan : Plan) : Shift :=
  { duties := List.replicate plan.size .idle, limiter := .fresh plan.service.tuning }

/-- The connections that workers have. -/
def charges (shift : Shift) : List Charge := shift.duties.filterMap Duty.charge?

/-- How many workers have not stopped. -/
def running (shift : Shift) : Nat := shift.duties.countP (· ≠ .stopped)

/-- What would become of a submission. -/
def outcome (plan : Plan) (shift : Shift) : Pool.Outcome :=
  if shift.phase ≠ .running then .refused .poolShutDown
  else if shift.queue.length < plan.size then .queued
  else .full

/-- Submits a connection. One that is refused, or given up where it would have to wait, is closed. -/
def submit (plan : Plan) (shift : Shift) (inbox : Inbox) : Shift :=
  if shift.outcome plan = .queued then
    { shift with
      arrivals := shift.arrivals + 1
      queue := shift.queue ++ [(shift.arrivals, inbox)] }
  else
    { shift with
      arrivals := shift.arrivals + 1
      log := shift.log ++ [.closed shift.arrivals none] }

/-- A peer acts on its connection, of which no worker takes notice yet. -/
def act (shift : Shift) (number : Nat) (action : PeerAction) : Shift :=
  { shift with
    duties := shift.duties.map (Duty.onCharge (Charge.onPeer number action))
    queue := shift.queue.map fun entry =>
      if entry.1 = number then (number, action.onInbox entry.2) else entry }

/-- Something happens to a connection, and to the limiter. -/
def tell (shift : Shift) (limiter : Limiter) (events : List Event) : Shift :=
  { shift with limiter, log := shift.log ++ events }

/-- A worker turns to its connection as it now is. One it is done with is closed. -/
def settle (shift : Shift) (worker : Nat) (charge : Charge) : Shift :=
  { shift with
    duties := shift.duties.set worker (.after charge)
    log := shift.log
      ++ if charge.isDone then [.closed charge.number charge.session.ending] else [] }

/-- An idle worker takes the first connection of the queue. If there is none and there will be none,
it stops. -/
def take (shift : Shift) (worker : Nat) : Shift :=
  match shift.duties[worker]?, shift.queue with
  | some .idle, (number, inbox) :: rest =>
      settle { shift with queue := rest } worker
        (.opening (decide (shift.phase ≠ .running)) number inbox)
  | some .idle, [] =>
      if shift.phase = .running then shift
      else { shift with duties := shift.duties.set worker .stopped }
  | _, _ => shift

/-- A worker reads the next byte of its connection, if it has no reply to send. -/
def read (plan : Plan) (shift : Shift) (worker : Nat) : Shift :=
  match shift.duties[worker]? with
  | some (.busy charge) =>
      if charge.unsent = [] then
        let turn := charge.turn plan.service shift.limiter
        (shift.tell turn.limiter (turn.exchanges.map (Event.taken charge.number))).settle worker
          (charge.afterTurn turn)
      else shift
  | _ => shift

/-- A worker sends the next character of a reply, if its peer can still receive. -/
def send (shift : Shift) (worker : Nat) : Shift :=
  match shift.duties[worker]? with
  | some (.busy charge) =>
      match charge.unsent, charge.inbox.gone with
      | character :: rest, false =>
          (shift.tell shift.limiter [.sent charge.number character]).settle worker
            (charge.withUnsent rest)
      | _, _ => shift
  | _ => shift

/-- A worker finds that its peer has gone, which may keep it from what has come before. -/
def lose (shift : Shift) (worker : Nat) : Shift :=
  match shift.duties[worker]? with
  | some (.busy charge) =>
      if charge.inbox.gone then shift.settle worker (charge.giveUp .lost) else shift
  | _ => shift

/-- Begins to shut down: nothing more is queued. -/
def beginShutdown (shift : Shift) : Shift :=
  if shift.phase = .running then
    { shift with duties := shift.duties.map (Duty.onCharge Charge.signal), phase := .draining }
  else shift

/-- A worker hears of a shutdown, while it waits for a connection or reads. -/
def heed (shift : Shift) (worker : Nat) : Shift :=
  if shift.phase = .running then shift
  else
    match shift.duties[worker]? with
    | some .idle => { shift with duties := shift.duties.set worker .stopped }
    | some (.busy charge) =>
        if charge.unsent = [] then shift.settle worker charge.heed else shift
    | _ => shift

/-- A worker is stopped, since the time of the shutdown is over. -/
def abort (shift : Shift) (worker : Nat) : Shift :=
  if shift.phase = .running then shift
  else
    match shift.duties[worker]? with
    | some .idle => { shift with duties := shift.duties.set worker .stopped }
    | some (.busy charge) => shift.settle worker (charge.giveUp .aborted)
    | _ => shift

/-- A shutdown returns when no worker runs any more. What is queued is closed then. -/
def conclude (shift : Shift) : Shift :=
  if shift.phase = .draining ∧ shift.running = 0 then
    { shift with
      phase := .stopped
      queue := []
      log := shift.log ++ shift.queue.map fun entry => .closed entry.1 none }
  else shift

/-- What can happen next. -/
inductive Action where
  | submit (inbox : Inbox)
  | act (number : Nat) (action : PeerAction)
  | take (worker : Nat)
  | read (worker : Nat)
  | send (worker : Nat)
  | lose (worker : Nat)
  | beginShutdown
  | heed (worker : Nat)
  | abort (worker : Nat)
  | conclude

/-- Lets something happen. -/
def perform (plan : Plan) (shift : Shift) : Action → Shift
  | .submit inbox => shift.submit plan inbox
  | .act number action => shift.act number action
  | .take worker => shift.take worker
  | .read worker => shift.read plan worker
  | .send worker => shift.send worker
  | .lose worker => shift.lose worker
  | .beginShutdown => shift.beginShutdown
  | .heed worker => shift.heed worker
  | .abort worker => shift.abort worker
  | .conclude => shift.conclude

/-- The workers after further actions. -/
def after (plan : Plan) (shift : Shift) (actions : List Action) : Shift :=
  actions.foldl (perform plan) shift

/-- The workers after actions, from their start. -/
def run (plan : Plan) (actions : List Action) : Shift := (fresh plan).after plan actions

end Shift

end AdmissionControl
