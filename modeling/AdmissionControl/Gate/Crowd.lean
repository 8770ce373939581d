import AdmissionControl.Gate.Basic

/-!
# Requests that wait for each other

The requests behind a gate share one client, and a request can be dropped wherever it waits: for the
client, for its connection, for a reply, or in its handler. A call has the client to itself from
opening the connection to reading the reply. A request that is dropped during its call takes the
connection with it; one that is dropped in its handler leaves its report to be made without it.
-/

namespace AdmissionControl

open Wire

namespace Gate

/-- What a request needs the client for. -/
inductive Job where
  | ask (visitor : Visitor) (start : Nat) (sampled : Bool)
  /-- The handler has ended, and the request waits for the report to be delivered. -/
  | report (verdict : Verdict) (ending : HandlerEnd) (completion : Completion)
  /-- The request was dropped in its handler, and nothing waits for the report. -/
  | release (verdict : Verdict) (completion : Completion)

/-- The request line that does a job. -/
def Job.request : Job → Request
  | .ask visitor _ _ => .admission visitor
  | .report _ _ completion => completion.request
  | .release _ completion => completion.request

/-- Whether a job is done without the request it is for, and cannot be dropped with it. -/
def Job.isDetached : Job → Bool
  | .release _ _ => true
  | _ => false

/-- Where a request is. -/
inductive Stage where
  /-- It waits for the client. -/
  | waiting (job : Job)
  /-- It has the client. -/
  | calling
  | handling (passage : Passage)
  | shed (response : Http.Response)
  | ended (ending : HandlerEnd)
  | dropped

/-- The stage after the verdict. -/
def Stage.ofEntry : Entry → Stage
  | .shed response => .shed response
  | .passed passage => .handling passage

section Handlers

variable {σ : Type}

/-- The handler of a request ends. A request with a verdict of the daemon then has to report. -/
def finishing (plan : Plan) (gate : Gate σ) (passage : Passage) (ending : HandlerEnd) :
    Stage × Gate σ :=
  match passage.verdict with
  | none => (.ended ending, gate)
  | some verdict =>
      if verdict.contacted then
        let completion := gate.completion passage ending
        (.waiting (.report verdict ending completion), gate.record (.reported completion))
      else
        let (ending, gate) := gate.depart plan verdict ending
        (.ended ending, gate)

/-- A request is dropped in its handler. Its slot can be given back only while there is something to
run the report. -/
def abandoning (plan : Plan) (gate : Gate σ) (passage : Passage) (canReport : Bool) :
    Stage × Gate σ :=
  match passage.verdict.filter Verdict.contacted with
  | none => (.dropped, gate)
  | some verdict =>
      if canReport then
        let completion := gate.droppedCompletion passage
        (.waiting (.release verdict completion), gate.record (.reported completion))
      else
        (.dropped, gate.warn plan .unreleased)

end Handlers

/-- The call for which the client is in use. -/
structure Call (κ : Type) where
  number : Nat
  job : Job
  pending : Client.Pending κ

end Gate

/-- A gate before a shared client, and the requests behind it under the numbers in which they
came. -/
structure Gate.Crowd (σ κ : Type) where
  gate : Gate (Backend.Shared σ κ)
  requests : List Gate.Stage := []
  calling : Option (Gate.Call κ) := none

namespace Gate.Crowd

variable {σ κ : Type}

/-- The world of the far end. -/
def world (crowd : Crowd σ κ) : σ := crowd.gate.backend.world

/-- Puts a client and a world in the place of those at hand. -/
def withShared (crowd : Crowd σ κ) (client : Client κ) (world : σ) : Crowd σ κ :=
  { crowd with gate := { crowd.gate with backend := ⟨client, world⟩ } }

/-- Moves a request to a stage. -/
def put (crowd : Crowd σ κ) (number : Nat) (stage : Stage) : Crowd σ κ :=
  { crowd with requests := crowd.requests.set number stage }

/-- Does something at the gate. -/
def atGate (crowd : Crowd σ κ) (gate : Gate (Backend.Shared σ κ)) : Crowd σ κ :=
  { crowd with gate }

/-- A request comes. -/
def come (plan : Plan) (crowd : Crowd σ κ) (request : Http.Request) : Crowd σ κ :=
  let start := crowd.gate.time
  if !plan.settings.enabled then
    { crowd with
      gate := crowd.gate.record .started
      requests := crowd.requests ++ [.handling ⟨start, false, none⟩] }
  else
    let (visitor, gate) := crowd.gate.ask plan request
    let sampled := !isUnsampled plan.settings request.path
    { crowd with gate, requests := crowd.requests ++ [.waiting (.ask visitor start sampled)] }

/-- A request goes on when the call for its job is over, and another one can have the client. -/
def goOn (plan : Plan) (crowd : Crowd σ κ) (number : Nat) (job : Job)
    (settles : ∀ {α : Type}, (List Char → Except Fault α) → Client.After σ κ α) : Crowd σ κ :=
  let free := { crowd with calling := none }
  match job with
  | .ask visitor start sampled =>
      let after := settles Client.readVerdict
      let answered := free.withShared after.client after.world
      let (entry, gate) := answered.gate.judge plan visitor start sampled
        (Backend.resultOr .failOpen after.outcome)
      (answered.atGate gate).put number (.ofEntry entry)
  | .report verdict ending _ =>
      let after := settles Client.readReceipt
      let reported := free.withShared after.client after.world
      let delivered := Backend.resultOr false after.outcome
      let (ending, gate) :=
        (reported.gate.warnIf plan (!delivered) .undelivered).depart plan verdict ending
      (reported.atGate gate).put number (.ended ending)
  | .release _ _ =>
      let after := settles Client.readReceipt
      (free.withShared after.client after.world).put number .dropped

/-- A waiting request takes the client, if no other one has it, and opens the connection. -/
def take (plan : Plan) (transport : Transport σ κ) (crowd : Crowd σ κ) (number : Nat) :
    Crowd σ κ :=
  match crowd.calling, crowd.requests[number]? with
  | none, some (.waiting job) =>
      match crowd.gate.backend.client.ensureLink transport crowd.world with
      | some (link, world) =>
          ({ crowd with calling := some ⟨number, job, .opened link⟩ }.withShared {} world).put
            number .calling
      | none => crowd.goOn plan number job fun _ => ⟨.failed .transport, {}, crowd.world⟩
  | _, _ => crowd

/-- The call sends its request. -/
def send (transport : Transport σ κ) (crowd : Crowd σ κ) : Crowd σ κ :=
  match crowd.calling with
  | some ⟨number, job, .opened link⟩ =>
      let (arrival, world) :=
        transport.send crowd.world link.connection (Text.encode job.request.encode)
      { crowd with calling := some ⟨number, job, .sent link arrival⟩ }.withShared
        crowd.gate.backend.client world
  | _ => crowd

/-- The call reads its reply, if there is one. -/
def receive (plan : Plan) (transport : Transport σ κ) (crowd : Crowd σ κ) : Crowd σ κ :=
  match crowd.calling with
  | some ⟨number, job, .sent link arrival⟩ =>
      if Client.isAnswered link arrival then
        crowd.goOn plan number job fun accept =>
          Client.settle transport link crowd.world arrival accept
      else
        crowd
  | _ => crowd

/-- The handler of a request ends. -/
def finish (plan : Plan) (crowd : Crowd σ κ) (number : Nat) (ending : HandlerEnd) : Crowd σ κ :=
  match crowd.requests[number]? with
  | some (.handling passage) =>
      let (stage, gate) := crowd.gate.finishing plan passage ending
      (crowd.atGate gate).put number stage
  | _ => crowd

/-- A request is dropped in its handler. -/
def dropHandling (plan : Plan) (crowd : Crowd σ κ) (number : Nat) (passage : Passage)
    (canReport : Bool) : Crowd σ κ :=
  let (stage, gate) := crowd.gate.abandoning plan passage canReport
  (crowd.atGate gate).put number stage

/-- A request is dropped where it is. During its call, the connection goes with it. -/
def drop (plan : Plan) (transport : Transport σ κ) (crowd : Crowd σ κ) (number : Nat)
    (canReport : Bool) : Crowd σ κ :=
  match crowd.calling.filter (·.number = number), crowd.requests[number]? with
  | some call, _ =>
      if call.job.isDetached then crowd
      else
        ({ crowd with calling := none }.withShared crowd.gate.backend.client
          (transport.hangUp crowd.world call.pending.link.connection)).put number .dropped
  | none, some (.waiting job) => if job.isDetached then crowd else crowd.put number .dropped
  | none, some (.handling passage) => crowd.dropHandling plan number passage canReport
  | none, _ => crowd

/-- Lets time pass. -/
def advance (crowd : Crowd σ κ) (nanoseconds : Nat) : Crowd σ κ :=
  crowd.atGate (crowd.gate.advance nanoseconds)

end Gate.Crowd

end AdmissionControl
