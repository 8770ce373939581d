import AdmissionControl.Client.Basic

/-!
# Callers of one client

Tasks that share a client call it one at a time. A call waits until no other one has the client. It
then takes the connection out of the client, or opens one, writes its request line and reads until
there is a line, and only a line that it accepts puts the connection back. Between any two of these
moves anything else may happen: a call can be given up, a connection can fail, and the daemon can
answer a line, late or never, or close a connection.
-/

namespace AdmissionControl

open Wire

namespace Client

/-- What a call is for. -/
inductive Errand where
  | tryAdmission (visitor : Visitor)
  | admission (visitor : Visitor)
  | complete (completion : Completion)
  | stats
deriving DecidableEq

/-- What a call returns. -/
inductive Result where
  | verdict (verdict : Verdict)
  | receipt (delivered : Bool)
  | state (state : Limiter)
deriving DecidableEq

/-- Whether a result says that it rests on a reply. -/
def Result.isFromReply : Result → Bool
  | .verdict reached => reached.contacted
  | .receipt delivered => delivered
  | .state _ => true

namespace Errand

/-- The request line of a call. -/
def request : Errand → Request
  | .tryAdmission visitor => .admission visitor
  | .admission visitor => .admission visitor
  | .complete completion => completion.request
  | .stats => .stats

/-- What a call accepts as its reply. -/
def accept : Errand → List Char → Except Fault Result
  | .tryAdmission _ => fun line => (readVerdict line).map .verdict
  | .admission _ => fun line => (readVerdict line).map .verdict
  | .complete _ => fun line => (readReceipt line).map .receipt
  | .stats => fun line => (Reply.readState line).map .state

/-- What the caller gets for the outcome of the round trip. -/
def conclude : Errand → Outcome Result → Outcome Result
  | .tryAdmission _ => id
  | .admission _ => Outcome.recover (.verdict .failOpen)
  | .complete _ => Outcome.recover (.receipt false)
  | .stats => id

end Errand

/-- Makes something of the result of a call. -/
def Outcome.map {α β : Type} (make : α → β) : Outcome α → Outcome β
  | .returned result => .returned (make result)
  | .failed error => .failed error
  | .unanswered => .unanswered

/-- Makes something of the result of a call, with the same client and world after it. -/
def After.map {σ κ α β : Type} (make : α → β) (after : After σ κ α) : After σ κ β :=
  { after with outcome := after.outcome.map make }

/-- Makes the call that is called for, with nothing in between. -/
def Errand.carryOut {σ κ : Type} (transport : Transport σ κ) (client : Client κ) (world : σ) :
    Errand → After σ κ Result
  | .tryAdmission visitor => (client.tryAdmission transport world visitor).map .verdict
  | .admission visitor => (client.admission transport world visitor).map .verdict
  | .complete completion => (client.complete transport world completion).map .receipt
  | .stats => (client.stats transport world).map .state

/-- A connection to a daemon, as both ends have used it. -/
structure Channel where
  /-- The bytes that were written, each with the number of the call that wrote it. -/
  written : List (Nat × UInt8) := []
  /-- The answers to the first of the whole lines, in their order. -/
  answers : List (List UInt8) := []
  /-- If the daemon has closed the connection, how many bytes of its answers went out before. -/
  cut : Option Nat := none
  /-- How many bytes of the answers have been read. -/
  taken : Nat := 0
deriving DecidableEq

namespace Channel

/-- The bytes that the daemon is sent. -/
def bytes (channel : Channel) : List UInt8 := channel.written.map Prod.snd

/-- The bytes that the daemon sends. -/
def stream (channel : Channel) : List UInt8 :=
  match channel.cut with
  | none => channel.answers.flatten
  | some count => channel.answers.flatten.take count

/-- What is still to be read. -/
def incoming (channel : Channel) : List UInt8 := channel.stream.drop channel.taken

/-- Whether nothing will come any more. -/
def isAtEnd (channel : Channel) : Bool := channel.cut.isSome && channel.incoming.isEmpty

/-- A call writes bytes. -/
def write (channel : Channel) (caller : Nat) (bytes : List UInt8) : Channel :=
  { channel with written := channel.written ++ bytes.map (Prod.mk caller) }

/-- The next bytes are read, so many of them at most. -/
def take (channel : Channel) (count : Nat) : Channel :=
  { channel with taken := channel.taken + (channel.incoming.take count).length }

/-- The daemon answers the next whole line, if there is one, by one line. -/
def answer (channel : Channel) (body : List UInt8) : Channel :=
  if channel.cut.isNone && channel.answers.length < channel.bytes.count 10 && !body.contains 10 then
    { channel with answers := channel.answers ++ [body ++ [10]] }
  else
    channel

/-- The daemon closes the connection when so many bytes of its answers have gone out. -/
def close (channel : Channel) (count : Nat) : Channel :=
  if channel.cut.isNone && channel.taken ≤ count then { channel with cut := some count }
  else channel

end Channel

/-- Connections under the numbers in which they were opened, as the call with a number uses them.
What is written stays on its way when the client hangs up, and may yet be answered. -/
def channels (caller : Nat) : Transport (List Channel) Nat where
  connect channels := some (channels.length, channels ++ [{}])
  send channels connection bytes :=
    (.received [] false, channels.modify connection (·.write caller bytes))
  hangUp channels _ := channels

/-- How far the call that has the client has come. -/
inductive Phase where
  | connecting
  /-- It still has to write these bytes. -/
  | writing (link : Link Nat) (left : List UInt8)
  /-- It has read these bytes, and the end of the stream or not. -/
  | reading (link : Link Nat) (bytes : List UInt8) (closed : Bool)
deriving DecidableEq

/-- The call that has the client. -/
structure RoundTrip where
  caller : Nat
  errand : Errand
  phase : Phase
deriving DecidableEq

/-- Where a call is. -/
inductive Stage where
  /-- It waits for the client. -/
  | waiting
  /-- It has the client. -/
  | calling
  | ended (answer : Outcome Result)
  /-- Its caller has given it up. -/
  | cancelled
deriving DecidableEq

end Client

/-- A client with its connections and the calls that were made, under the numbers in which they were
made. -/
structure Callers where
  client : Client Nat := {}
  channels : List Client.Channel := []
  calls : List (Client.Errand × Client.Stage) := []
  current : Option Client.RoundTrip := none
deriving DecidableEq

namespace Callers

open Client

/-- What can happen next. What cannot happen leaves everything as it is. -/
inductive Action where
  | call (errand : Errand)
  /-- A waiting call gets the client. -/
  | begin (number : Nat)
  | connect
  | write (count : Nat)
  | read (count : Nat)
  | readEnd
  /-- The connection cannot be opened, or fails. -/
  | fail
  /-- The call that has the client looks at the line it has read. -/
  | finish
  | cancel (number : Nat)
  | disconnect
  /-- The daemon answers the next line of a connection. -/
  | answer (connection : Nat) (body : List UInt8)
  /-- The daemon closes a connection. -/
  | close (connection : Nat) (count : Nat)
deriving DecidableEq

/-- Moves a call to a stage. -/
def put (callers : Callers) (number : Nat) (errand : Errand) (stage : Stage) : Callers :=
  { callers with calls := callers.calls.set number (errand, stage) }

/-- Lets the call that has the client go on. -/
def proceed (callers : Callers) (trip : RoundTrip) (phase : Phase) : Callers :=
  { callers with current := some { trip with phase } }

/-- A waiting call gets the client and takes the connection out of it, if there is one. -/
def begin (callers : Callers) (number : Nat) : Callers :=
  match callers.current, callers.calls[number]? with
  | none, some (errand, .waiting) =>
      let phase : Phase :=
        match callers.client.link with
        | some link => .writing link (Text.encode errand.request.encode)
        | none => .connecting
      { callers.put number errand .calling with
        client := {}
        current := some ⟨number, errand, phase⟩ }
  | _, _ => callers

/-- The call that has the client has opened a connection. -/
def connect (callers : Callers) : Callers :=
  match callers.current with
  | some ⟨caller, errand, .connecting⟩ =>
      match callers.client.ensureLink (Client.channels caller) callers.channels with
      | some (link, channels) =>
          { callers with channels }.proceed ⟨caller, errand, .connecting⟩
            (.writing link (Text.encode errand.request.encode))
      | none => callers
  | _ => callers

/-- The call that has the client has written the next bytes of its line. -/
def write (callers : Callers) (count : Nat) : Callers :=
  match callers.current with
  | some ⟨caller, errand, .writing link left⟩ =>
      let channels :=
        ((Client.channels caller).send callers.channels link.connection (left.take count)).2
      let phase : Phase :=
        if (left.drop count).isEmpty then .reading link [] false
        else .writing link (left.drop count)
      { callers with channels }.proceed ⟨caller, errand, .writing link left⟩ phase
  | _ => callers

/-- The call that has the client reads bytes, unless it has a line or the end of the stream. -/
def read (callers : Callers) (count : Nat) : Callers :=
  match callers.current with
  | some ⟨caller, errand, .reading link bytes closed⟩ =>
      match callers.channels[link.connection]? with
      | some channel =>
          if isAnswered link (.received bytes closed) then callers
          else
            { callers with
              channels := callers.channels.modify link.connection (·.take count) }.proceed
              ⟨caller, errand, .reading link bytes closed⟩
              (.reading link (bytes ++ channel.incoming.take count) closed)
      | none => callers
  | _ => callers

/-- The call that has the client meets the end of the stream. -/
def readEnd (callers : Callers) : Callers :=
  match callers.current with
  | some ⟨caller, errand, .reading link bytes closed⟩ =>
      match callers.channels[link.connection]? with
      | some channel =>
          if !isAnswered link (.received bytes closed) && channel.isAtEnd then
            callers.proceed ⟨caller, errand, .reading link bytes closed⟩ (.reading link bytes true)
          else callers
      | none => callers
  | _ => callers

/-- The call that has the client ends, and another one can have it. -/
def conclude (callers : Callers) (trip : RoundTrip)
    (after : After (List Channel) Nat Result) : Callers :=
  { callers.put trip.caller trip.errand (.ended (trip.errand.conclude after.outcome)) with
    client := after.client
    channels := after.world
    current := none }

/-- The call that has the client ends with what came back for its request. -/
def settle (callers : Callers) (trip : RoundTrip) (link : Link Nat) (arrival : Arrival) : Callers :=
  callers.conclude trip
    (Client.settle (Client.channels trip.caller) link callers.channels arrival trip.errand.accept)

/-- The connection of the call that has the client fails, or cannot be opened. -/
def fail (callers : Callers) : Callers :=
  match callers.current with
  | none => callers
  | some trip =>
      match trip.phase with
      | .connecting => callers.conclude trip ⟨.failed .transport, {}, callers.channels⟩
      | .writing link _ => callers.settle trip link .refused
      | .reading link _ _ => callers.settle trip link .refused

/-- The call that has the client ends, if it has read a line or the end of the stream. -/
def finish (callers : Callers) : Callers :=
  match callers.current with
  | some ⟨caller, errand, .reading link bytes closed⟩ =>
      if isAnswered link (.received bytes closed) then
        callers.settle ⟨caller, errand, .reading link bytes closed⟩ link (.received bytes closed)
      else callers
  | _ => callers

/-- A call is given up. One that has the client has its connection too, which is dropped. -/
def cancel (callers : Callers) (number : Nat) : Callers :=
  match callers.calls[number]? with
  | some (errand, .waiting) => callers.put number errand .cancelled
  | some (errand, .calling) => { callers.put number errand .cancelled with current := none }
  | _ => callers

/-- The client drops its connection. This takes the client, like a call. -/
def disconnect (callers : Callers) : Callers :=
  if callers.current.isNone then { callers with client := {} } else callers

/-- Lets something happen. -/
def step (callers : Callers) : Action → Callers
  | .call errand => { callers with calls := callers.calls ++ [(errand, .waiting)] }
  | .begin number => callers.begin number
  | .connect => callers.connect
  | .write count => callers.write count
  | .read count => callers.read count
  | .readEnd => callers.readEnd
  | .fail => callers.fail
  | .finish => callers.finish
  | .cancel number => callers.cancel number
  | .disconnect => callers.disconnect
  | .answer connection body =>
      { callers with channels := callers.channels.modify connection (·.answer body) }
  | .close connection count =>
      { callers with channels := callers.channels.modify connection (·.close count) }

/-- Lets things happen one after another. -/
def run (callers : Callers) (actions : List Action) : Callers := actions.foldl step callers

end Callers

end AdmissionControl
