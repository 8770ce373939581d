import AdmissionControl.Gate.Basic

/-!
# A request from end to end

A request goes through the gate to its handler, and the response goes back through the gate. A
handler that panics leaves a payload: the gate catches the panic, does its own work, and passes it
on.
-/

namespace AdmissionControl

namespace Gate

variable {σ ε : Type}

/-- How a handler ended, as far as the gate looks at it: not at the payload of a panic. -/
def HandlerEnd.ofOutcome : Except ε Http.Response → HandlerEnd
  | .ok response => .responded response
  | .error _ => .panicked

/-- What the gate passes on: the response that left it, or else the panic that it caught. -/
def HandlerEnd.resume (caught : Except ε Http.Response) : HandlerEnd → Except ε Http.Response
  | .responded response => .ok response
  | .panicked => caught

/-- A request comes to the gate, and a response or a panic goes back. While the handler works,
anything may happen at the gate. -/
def conduct (plan : Plan) (backend : Backend σ) (gate : Gate σ) (request : Http.Request)
    (handler : Http.Request → Gate σ → Except ε Http.Response × Gate σ) :
    Except ε Http.Response × Gate σ :=
  match gate.enter plan backend request with
  | (.shed response, turnedAway) => (.ok response, turnedAway)
  | (.passed passage, started) =>
      let (outcome, worked) := handler request started
      let (last, after) := worked.leave plan backend passage (.ofOutcome outcome)
      (last.resume outcome, after)

end Gate

end AdmissionControl
