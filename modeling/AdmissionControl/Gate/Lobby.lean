import AdmissionControl.Gate.Crowd

/-!
# Requests before any backend

A backend takes its time: a request waits for its verdict, and after its handler for the delivery of
its report, while other requests come and go. Here the backend is left open. It gives any verdict,
delivers any report or not, and changes its state at any time. A request can be dropped wherever it
waits. Each request is kept with what the gate did for it.
-/

namespace AdmissionControl

open Wire

namespace Gate

variable {σ : Type}

/-- What a gate did since an earlier state. -/
def eventsSince (gate earlier : Gate σ) : List Event := gate.log.drop earlier.log.length

/-- What can happen to a request at a gate. -/
inductive Incident where
  /-- The backend gives its verdict. -/
  | decided (verdict : Verdict)
  | finished (ending : HandlerEnd)
  /-- The report is delivered, or it is known not to be. -/
  | delivered (delivered : Bool)
  | dropped (canReport : Bool)

/-- Something happens to a request at a stage, if it can. A report that is made without its request
cannot be dropped with it. -/
def proceed? (plan : Plan) (gate : Gate σ) : Stage → Incident → Option (Stage × Gate σ)
  | .waiting (.ask visitor start sampled), .decided verdict =>
      let (entry, gate) := gate.judge plan visitor start sampled verdict
      some (.ofEntry entry, gate)
  | .handling passage, .finished ending => some (gate.finishing plan passage ending)
  | .waiting (.report verdict ending _), .delivered delivered =>
      let (ending, gate) := (gate.warnIf plan (!delivered) .undelivered).depart plan verdict ending
      some (.ended ending, gate)
  | .waiting (.release _ _), .delivered _ => some (.dropped, gate)
  | .waiting job, .dropped _ => if job.isDetached then none else some (.dropped, gate)
  | .handling passage, .dropped canReport => some (gate.abandoning plan passage canReport)
  | _, _ => none

/-- A request at a gate: when it came, where it is, and what the gate did for it. -/
structure Visit where
  request : Http.Request
  came : Nat
  stage : Stage
  events : List Event

/-- The completion that an event reports. -/
def Event.completion? : Event → Option Completion
  | .reported completion => some completion
  | _ => none

namespace Visit

/-- How often the handler of the request was started. -/
def starts (visit : Visit) : Nat := visit.events.count .started

/-- The completions that were reported for the request. -/
def reports (visit : Visit) : List Completion := visit.events.filterMap Event.completion?

/-- The request goes on to a stage, and the gate does more for it. -/
def goOn (visit : Visit) (stage : Stage) (events : List Event) : Visit :=
  { visit with stage, events := visit.events ++ events }

end Visit

/-- A gate receives a request: it asks for admission, or starts the handler if it is off. -/
def receive (plan : Plan) (gate : Gate σ) (request : Http.Request) : Visit × Gate σ :=
  let (stage, after) : Stage × Gate σ :=
    if plan.settings.enabled then
      let (visitor, asked) := gate.ask plan request
      (.waiting (.ask visitor gate.time (!isUnsampled plan.settings request.path)), asked)
    else
      (.handling ⟨gate.time, false, none⟩, gate.record .started)
  (⟨request, gate.time, stage, after.eventsSince gate⟩, after)

/-- A gate and the requests that came to it, under their numbers. -/
structure Lobby (σ : Type) where
  gate : Gate σ
  visits : List Visit := []

namespace Lobby

/-- What can happen next. What cannot happen leaves everything as it is. -/
inductive Action (σ : Type) where
  | come (request : Http.Request)
  | meet (number : Nat) (incident : Incident)
  | advance (nanoseconds : Nat)
  /-- The state of the backend changes. -/
  | change (state : σ)

/-- Where a request is. -/
def stage? (lobby : Lobby σ) (number : Nat) : Option Stage := lobby.visits[number]?.map (·.stage)

/-- Moves a request to a stage. What the gate did meanwhile, it did for this request. -/
def put (lobby : Lobby σ) (number : Nat) (stage : Stage) (gate : Gate σ) : Lobby σ where
  gate
  visits := lobby.visits.modify number (·.goOn stage (gate.eventsSince lobby.gate))

/-- A request comes. -/
def come (plan : Plan) (lobby : Lobby σ) (request : Http.Request) : Lobby σ :=
  let (visit, gate) := lobby.gate.receive plan request
  { gate, visits := lobby.visits ++ [visit] }

/-- Something happens to a request. -/
def meet (plan : Plan) (lobby : Lobby σ) (number : Nat) (incident : Incident) : Lobby σ :=
  match (lobby.stage? number).bind (lobby.gate.proceed? plan · incident) with
  | some (stage, gate) => lobby.put number stage gate
  | none => lobby

/-- The state of the backend changes. -/
def change (lobby : Lobby σ) (state : σ) : Lobby σ :=
  { lobby with gate := { lobby.gate with backend := state } }

/-- The lobby after one step. -/
def act (plan : Plan) (lobby : Lobby σ) : Action σ → Lobby σ
  | .come request => lobby.come plan request
  | .meet number incident => lobby.meet plan number incident
  | .advance nanoseconds => { lobby with gate := lobby.gate.advance nanoseconds }
  | .change state => lobby.change state

/-- The lobby after a sequence of steps. -/
def run (plan : Plan) (lobby : Lobby σ) (actions : List (Action σ)) : Lobby σ :=
  actions.foldl (act plan) lobby

end Lobby

end Gate

end AdmissionControl
