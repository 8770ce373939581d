import AdmissionControl.Answer
import AdmissionControl.Text.Bytes

/-!
# Sessions

A session is the daemon's end of one connection. Bytes are taken one at a time, so its course cannot
depend on how a peer divides them. A line ends with a line feed and may hold at most
`Service.lineLimit` bytes with it; each line is answered before the next byte is looked at.
-/

namespace AdmissionControl

open Wire

/-- What a daemon is set up to do with request lines. -/
structure Service where
  tuning : Limiter.Tuning
  lineLimit : Nat

/-- One line taken off a connection and what was sent for it. -/
inductive Exchange where
  /-- The line, without its terminator, went to the limiter's service. -/
  | answered (line reply : List Char)
  /-- The line was not accepted as one, and the connection ended. -/
  | refused (fault : Fault)
deriving DecidableEq

/-- The text sent in an exchange. -/
def Exchange.reply : Exchange → List Char
  | .answered _ reply => reply
  | .refused _ => Reply.unknown

namespace Session

/-- Why a session is over. -/
inductive Ending where
  /-- The peer finished sending, and what it began after its last whole line is dropped. -/
  | closed
  /-- The daemon is shutting down. -/
  | shutDown
  /-- A line was refused. -/
  | refused (fault : Fault)
  /-- A reply had no one left to receive it. -/
  | lost
  /-- The daemon gave up waiting for the rest of a line. -/
  | aborted
deriving DecidableEq

end Session

/-- The daemon's end of one connection. -/
structure Session where
  /-- The bytes after the last whole line. -/
  partialLine : List UInt8 := []
  /-- Whether the peer can still receive. -/
  reachable : Bool := true
  /-- Whether the session ends with the line at hand, since the daemon is shutting down. -/
  stopping : Bool := false
  ending : Option Session.Ending := none
deriving DecidableEq

namespace Session

/-- A session before its first byte. It is over at once when the daemon is already shutting
down. -/
def opening (reachable stopping : Bool) : Session :=
  { reachable, ending := if stopping then some .shutDown else none }

/-- Whether the session is over. -/
def isOver (session : Session) : Bool := session.ending.isSome

/-- Turns to what the peer sends. Where not a single byte fits into a line, nothing can be received,
and the session ends as if the peer had finished. -/
def await (service : Service) (session : Session) : Session :=
  if session.isOver || service.lineLimit != 0 then session
  else { session with partialLine := [], ending := some .closed }

theorem await_of_isOver (service : Service) {session : Session} (ended : session.isOver) :
    session.await service = session := by
  simp [await, ended]

theorem await_of_lineLimit_ne_zero {service : Service} (positive : service.lineLimit ≠ 0)
    (session : Session) : session.await service = session := by
  simp [await, positive]

theorem isOver_await {service : Service} (none : service.lineLimit = 0) (session : Session) :
    (session.await service).isOver := by
  unfold await
  split
  · simp_all
  · rfl

/-- The daemon begins to shut down. The session has not heard of it yet and goes on reading, but it
looks before each line whether it should. -/
def signal (session : Session) : Session :=
  if session.isOver then session else { session with stopping := true }

/-- Hears of a shutdown: between lines the session ends, inside a line it waits for that line. -/
def heed (session : Session) : Session :=
  if session.isOver || !session.partialLine.isEmpty then session
  else { session with ending := some .shutDown }

/-- Hears of a shutdown as soon as it begins. -/
def stop (session : Session) : Session := session.signal.heed

/-- Hears that the peer has finished sending. -/
def hearEnd (session : Session) : Session :=
  if session.isOver then session
  else { session with partialLine := [], ending := some .closed }

/-- Ends the session without the rest of a line that has begun. -/
def abort (session : Session) : Session :=
  if session.isOver then session
  else { session with partialLine := [], ending := some .aborted }

end Session

/-- A session at work: its state, the limiter it shares with others, and its exchanges so far. -/
structure Turn where
  session : Session
  limiter : Limiter
  exchanges : List Exchange := []
deriving DecidableEq

namespace Turn

/-- The line feed, which ends a line. -/
def lineFeed : UInt8 := 10

/-- The characters that may end a line. -/
def isTerminator (character : Char) : Bool := character = '\n' || character = '\r'

/-- Refuses the line at hand and ends the session. -/
def refuse (turn : Turn) (fault : Fault) : Turn :=
  { turn with
    session :=
      { turn.session with
        partialLine := []
        ending := some (if turn.session.reachable then .refused fault else .lost) }
    exchanges := turn.exchanges ++ [.refused fault] }

/-- Answers a line. After it the session goes on, unless a shutdown was waiting for this line or the
peer could not receive the reply. -/
def answerWith (service : Service) (turn : Turn) (line : List Char) : Turn :=
  let answer := answerLine service.tuning turn.limiter line
  { session :=
      { turn.session with
        partialLine := []
        ending :=
          if !turn.session.reachable then some .lost
          else if turn.session.stopping then some .shutDown
          else none }
    limiter := answer.state
    exchanges := turn.exchanges ++ [.answered line answer.reply] }

/-- Takes a whole line, terminator included. -/
def takeLine (service : Service) (turn : Turn) (line : List UInt8) : Turn :=
  match Text.decode? line with
  | some text => turn.answerWith service (Text.dropEndWhile isTerminator text)
  | none => turn.refuse .undecodableLine

/-- Takes one byte. Bytes after the end of a session are not looked at. -/
def hearByte (service : Service) (turn : Turn) (byte : UInt8) : Turn :=
  let line := turn.session.partialLine ++ [byte]
  if turn.session.isOver then turn
  else if byte = lineFeed then turn.takeLine service line
  else if service.lineLimit ≤ line.length then turn.refuse (.oversizedLine service.lineLimit)
  else { turn with session := { turn.session with partialLine := line } }

/-- Takes bytes in order. -/
def hear (service : Service) (turn : Turn) (bytes : List UInt8) : Turn :=
  bytes.foldl (hearByte service) { turn with session := turn.session.await service }

/-- Nothing is heard after the end of a session. -/
theorem foldl_hearByte_of_isOver (service : Service) (bytes : List UInt8) {turn : Turn}
    (ended : turn.session.isOver) : bytes.foldl (hearByte service) turn = turn := by
  induction bytes with
  | nil => rfl
  | cons byte rest ih => rw [List.foldl_cons, hearByte, if_pos ended, ih]

/-- The course of a session does not depend on how its bytes are divided. -/
theorem hear_append (service : Service) (turn : Turn) (first second : List UInt8) :
    turn.hear service (first ++ second) = (turn.hear service first).hear service second := by
  by_cases limit : service.lineLimit = 0
  · have ended := Session.isOver_await limit turn.session
    have unheard (bytes : List UInt8) :
        bytes.foldl (hearByte service) { turn with session := turn.session.await service }
          = { turn with session := turn.session.await service } :=
      foldl_hearByte_of_isOver service bytes ended
    simp only [hear, unheard, Session.await_of_isOver service ended]
  · simp only [hear, Session.await_of_lineLimit_ne_zero limit]
    exact List.foldl_append

end Turn

end AdmissionControl
