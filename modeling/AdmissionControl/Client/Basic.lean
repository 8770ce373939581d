import AdmissionControl.Client.Verdict
import AdmissionControl.Text.Bytes

/-!
# The client

A client holds at most one connection. It opens one when a call needs it, and only a call that has
read a reply line keeps it: after a failure, or when the caller gives up waiting, the connection is
dropped, so that a late reply is never read as the answer to a later call. No call is repeated.

The far end is a parameter. `Transport` says what happens when bytes are sent and both ends have
come to rest.
-/

namespace AdmissionControl

open Wire

/-- What comes of sending bytes, once nothing can move any more. -/
inductive Arrival where
  /-- The far end has closed the connection, and the bytes could not be sent. -/
  | refused
  /-- The bytes were sent, and these came back, followed by the end of the stream or not. -/
  | received (bytes : List UInt8) (closed : Bool)

/-- A world `σ` in which connections `κ` can be opened to a far end. -/
structure Transport (σ κ : Type) where
  connect : σ → Option (κ × σ)
  send : σ → κ → List UInt8 → Arrival × σ
  hangUp : σ → κ → σ

namespace Client

/-- An open connection and the bytes that came on it after the last reply that was read. -/
structure Link (κ : Type) where
  connection : κ
  unread : List UInt8
deriving DecidableEq

/-- Why a call failed. -/
inductive CallError where
  /-- No connection, a broken one, an ended one, or a reply that is not text. -/
  | transport
  /-- A reply line that cannot be accepted. -/
  | unacceptable (fault : Fault)
deriving DecidableEq

/-- How a call ended. -/
inductive Outcome (α : Type) where
  | returned (result : α)
  | failed (error : CallError)
  /-- No reply came, and the caller gave up waiting. -/
  | unanswered
deriving DecidableEq

/-- The result of a call that takes every failure for one answer. -/
def Outcome.recover {α : Type} (fallback : α) : Outcome α → Outcome α
  | .failed _ => .returned fallback
  | outcome => outcome

/-- The first reply line among received bytes, and the bytes after it. What the end of the stream
cuts off counts as a line unless it is empty. -/
def firstLine (bytes : List UInt8) (closed : Bool) : Outcome (List UInt8 × List UInt8) :=
  match Text.cut? 10 bytes with
  | some (line, rest) => .returned (line ++ [10], rest)
  | none =>
      if !closed then .unanswered
      else if bytes.isEmpty then .failed .transport
      else .returned (bytes, [])

end Client

/-- The state of a client. -/
structure Client (κ : Type) where
  link : Option (Client.Link κ) := none
deriving DecidableEq

namespace Client

variable {σ κ α : Type}

/-- The outcome of a call, with the client and the world after it. -/
structure After (σ κ α : Type) where
  outcome : Outcome α
  client : Client κ
  world : σ

/-- Whether the client holds a connection. -/
def isConnected (client : Client κ) : Bool := client.link.isSome

/-- Drops the connection, if there is one. -/
def disconnect (transport : Transport σ κ) (client : Client κ) (world : σ) : σ :=
  match client.link with
  | some link => transport.hangUp world link.connection
  | none => world

/-- The connection to use for a call: the one at hand, or else a new one. -/
def ensureLink (transport : Transport σ κ) (client : Client κ) (world : σ) :
    Option (Link κ × σ) :=
  match client.link with
  | some link => some (link, world)
  | none => (transport.connect world).map fun opened => (⟨opened.1, []⟩, opened.2)

/-- Ends a call with what came back after its request was sent. The connection is kept only if there
is a result. -/
def settle (transport : Transport σ κ) (link : Link κ) (world : σ) (arrival : Arrival)
    (accept : List Char → Except Fault α) : After σ κ α :=
  let dropped (outcome : Outcome α) : After σ κ α :=
    ⟨outcome, {}, transport.hangUp world link.connection⟩
  match arrival with
  | .refused => dropped (.failed .transport)
  | .received bytes closed =>
      match firstLine (link.unread ++ bytes) closed with
      | .failed error => dropped (.failed error)
      | .unanswered => dropped .unanswered
      | .returned (line, rest) =>
          match Text.decode? line with
          | none => dropped (.failed .transport)
          | some text =>
              match accept (Text.trimEnd text) with
              | .error fault => dropped (.failed (.unacceptable fault))
              | .ok result => ⟨.returned result, ⟨some { link with unread := rest }⟩, world⟩

/-- Sends a request on a connection and accepts the reply line that follows. -/
def exchange (transport : Transport σ κ) (link : Link κ) (world : σ) (request : Request)
    (accept : List Char → Except Fault α) : After σ κ α :=
  let (arrival, after) := transport.send world link.connection (Text.encode request.encode)
  settle transport link after arrival accept

/-- Makes one call. -/
def call (transport : Transport σ κ) (client : Client κ) (world : σ) (request : Request)
    (accept : List Char → Except Fault α) : After σ κ α :=
  match client.ensureLink transport world with
  | none => ⟨.failed .transport, {}, world⟩
  | some (link, opened) => exchange transport link opened request accept

/-- A call that is under way. It has its connection to itself until it ends. -/
inductive Pending (κ : Type) where
  /-- It is about to send its request. -/
  | opened (link : Link κ)
  /-- It waits for the reply, and this has come back or is on its way. -/
  | sent (link : Link κ) (arrival : Arrival)

/-- The connection of a call that is under way. -/
def Pending.link : Pending κ → Link κ
  | .opened link => link
  | .sent link _ => link

/-- Whether a call that has sent its request need not wait any longer. -/
def isAnswered (link : Link κ) : Arrival → Bool
  | .refused => true
  | .received bytes closed => closed || (Text.cut? 10 (link.unread ++ bytes)).isSome

/-- Reads the verdict from a reply line. -/
def readVerdict (line : List Char) : Except Fault Verdict :=
  (AdmitReply.parse line).map Verdict.ofReply

/-- Takes any reply line for the receipt of a report. -/
def readReceipt (_ : List Char) : Except Fault Bool := .ok true

/-- Asks for admission. -/
def tryAdmission (transport : Transport σ κ) (client : Client κ) (world : σ)
    (visitor : Visitor) : After σ κ Verdict :=
  client.call transport world (.admission visitor) readVerdict

/-- Asks for admission, and takes it for granted if the call fails. -/
def admission (transport : Transport σ κ) (client : Client κ) (world : σ)
    (visitor : Visitor) : After σ κ Verdict :=
  let after := client.tryAdmission transport world visitor
  { after with outcome := after.outcome.recover .failOpen }

/-- Reports a completion. Any reply line counts as its receipt. -/
def complete (transport : Transport σ κ) (client : Client κ) (world : σ)
    (completion : Completion) : After σ κ Bool :=
  let after := client.call transport world completion.request readReceipt
  { after with outcome := after.outcome.recover false }

/-- Asks for the state of the limiter. -/
def stats (transport : Transport σ κ) (client : Client κ) (world : σ) : After σ κ Limiter :=
  client.call transport world .stats Reply.readState

end Client

end AdmissionControl
