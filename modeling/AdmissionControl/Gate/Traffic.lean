import AdmissionControl.Gate.Basic

/-!
# Traffic

Requests come to a gate one after another, and their handlers end in any order. Requests are
numbered as they come; one whose handler waits stays pending under its number until it is released
or dropped.
-/

namespace AdmissionControl

namespace Gate

/-- The handler of a request: how long it works, whether it then waits, and how it ends. -/
structure Handler where
  nanoseconds : Nat
  waits : Bool
  ending : HandlerEnd

/-- A request in its handler, which waits. -/
structure Waiting where
  number : Nat
  passage : Passage
  ending : HandlerEnd
deriving DecidableEq

/-- A gate and the requests behind it. -/
structure Traffic (σ : Type) where
  gate : Gate σ
  /-- How many requests have come; the next one takes this number. -/
  arrivals : Nat := 0
  waiting : List Waiting := []

namespace Traffic

variable {σ : Type}

/-- What became of a request. -/
inductive Outcome where
  | shed (response : Http.Response)
  | ended (ending : HandlerEnd)
  | pending
  | dropped
  /-- No request with that number is pending. -/
  | unknown
deriving DecidableEq

/-- The pending request with a number. -/
def find? (traffic : Traffic σ) (number : Nat) : Option Waiting :=
  traffic.waiting.find? (·.number = number)

/-- The traffic without a pending request. -/
def without (traffic : Traffic σ) (number : Nat) : Traffic σ :=
  { traffic with waiting := traffic.waiting.filter (·.number ≠ number) }

/-- A request comes, and its handler runs as far as it can. -/
def request (plan : Plan) (backend : Backend σ) (traffic : Traffic σ) (request : Http.Request)
    (handler : Handler) : Outcome × Traffic σ :=
  let counted := { traffic with arrivals := traffic.arrivals + 1 }
  match traffic.gate.enter plan backend request with
  | (.shed response, gate) => (.shed response, { counted with gate })
  | (.passed passage, gate) =>
      let worked := gate.advance handler.nanoseconds
      if handler.waits then
        (.pending,
          { counted with
            gate := worked
            waiting := traffic.waiting ++ [⟨traffic.arrivals, passage, handler.ending⟩] })
      else
        let (ending, after) := worked.leave plan backend passage handler.ending
        (.ended ending, { counted with gate := after })

/-- The handler of a pending request goes on to its end. -/
def release (plan : Plan) (backend : Backend σ) (traffic : Traffic σ) (number : Nat) :
    Outcome × Traffic σ :=
  match traffic.find? number with
  | none => (.unknown, traffic)
  | some waiting =>
      let (ending, gate) := traffic.gate.leave plan backend waiting.passage waiting.ending
      (.ended ending, { traffic.without number with gate })

/-- A pending request is dropped. -/
def drop (plan : Plan) (backend : Backend σ) (traffic : Traffic σ) (number : Nat)
    (canReport : Bool) : Outcome × Traffic σ :=
  match traffic.find? number with
  | none => (.unknown, traffic)
  | some waiting =>
      (.dropped,
        { traffic.without number with
          gate := traffic.gate.drop plan backend waiting.passage canReport })

/-- Changes the state of the backend from outside. -/
def changeBackend (traffic : Traffic σ) (change : σ → σ) : Traffic σ :=
  { traffic with gate := { traffic.gate with backend := change traffic.gate.backend } }

/-- Lets time pass. -/
def advance (traffic : Traffic σ) (nanoseconds : Nat) : Traffic σ :=
  { traffic with gate := traffic.gate.advance nanoseconds }

/-- What the gate did since an earlier state of the traffic. -/
def eventsSince (traffic earlier : Traffic σ) : List Event :=
  traffic.gate.log.drop earlier.gate.log.length

end Traffic

end Gate

end AdmissionControl
