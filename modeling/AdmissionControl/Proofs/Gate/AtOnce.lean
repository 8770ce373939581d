import AdmissionControl.Proofs.Gate.Reports

/-!
# Requests before a backend that answers at once

A gate that has its backend at hand asks it in one step, and reports to it in one step. That is what
a request does which meets the answers of the backend one after the other, so what holds of requests
before any backend holds of it.
-/

namespace AdmissionControl

open Wire

namespace Gate.Lobby

variable {σ : Type} {lobby : Lobby σ}

/-- What happens to a request that comes to a gate with its backend at hand. -/
def coming (plan : Plan) (backend : Backend σ) (lobby : Lobby σ) (request : Http.Request) :
    List (Action σ) :=
  if plan.settings.enabled then
    let (verdict, state) := backend.ask lobby.gate.backend (plan.visitor request)
    [.come request, .change state, .meet lobby.visits.length (.decided verdict)]
  else
    [.come request]

/-- What happens at the end of a handler, when the backend is at hand. -/
def leaving (backend : Backend σ) (lobby : Lobby σ) (number : Nat) (passage : Passage)
    (ending : HandlerEnd) : List (Action σ) :=
  if passage.verdict.any Verdict.contacted then
    let (delivered, state) :=
      backend.report lobby.gate.backend (lobby.gate.completion passage ending)
    [.meet number (.finished ending), .change state, .meet number (.delivered delivered)]
  else
    [.meet number (.finished ending)]

/-- What happens to a request that is dropped in its handler, when the backend is at hand. -/
def dropping (backend : Backend σ) (lobby : Lobby σ) (number : Nat) (passage : Passage)
    (canReport : Bool) : List (Action σ) :=
  if passage.verdict.any Verdict.contacted && canReport then
    let (delivered, state) :=
      backend.report lobby.gate.backend (lobby.gate.droppedCompletion passage)
    [.meet number (.dropped canReport), .change state, .meet number (.delivered delivered)]
  else
    [.meet number (.dropped canReport)]

section Meeting

variable {plan : Plan} {number : Nat} {visit : Visit} {incident : Incident}

/-- A request that meets one incident. -/
theorem run_meet {stage : Stage} {gate : Gate σ} (found : lobby.visits[number]? = some visit)
    (proceeded : lobby.gate.proceed? plan visit.stage incident = some (stage, gate)) :
    let after := lobby.run plan [.meet number incident]
    after.gate = gate ∧ after.stage? number = some stage := by
  obtain ⟨gateEq, met⟩ := meet_of_proceed? found proceeded
  exact ⟨gateEq, stage?_eq met⟩

/-- A request that meets two incidents, between which the backend changes its state. -/
theorem run_meet_meet {between stage : Stage} {middle gate : Gate σ} {state : σ} {last : Incident}
    (found : lobby.visits[number]? = some visit)
    (proceeded : lobby.gate.proceed? plan visit.stage incident = some (between, middle))
    (again : ({ middle with backend := state } : Gate σ).proceed? plan between last
      = some (stage, gate)) :
    let after := lobby.run plan [.meet number incident, .change state, .meet number last]
    after.gate = gate ∧ after.stage? number = some stage := by
  obtain ⟨gateEq, met⟩ := meet_of_proceed? found proceeded
  have changed : ((lobby.meet plan number incident).change state).gate
      = { middle with backend := state } := by
    rw [change, gateEq]
  exact run_meet met (changed ▸ again)

end Meeting

/-- A request that comes to a gate is let through or turned away as it is before any backend. -/
theorem run_coming (plan : Plan) (backend : Backend σ) (lobby : Lobby σ) (request : Http.Request) :
    let entered := lobby.gate.enter plan backend request
    let after := lobby.run plan (lobby.coming plan backend request)
    after.gate = entered.2 ∧ after.stage? lobby.visits.length = some (.ofEntry entered.1) := by
  intro entered
  cases enabled : plan.settings.enabled with
  | false =>
      simp [coming, enabled, run, act, come, receive, entered, enter, stage?, Stage.ofEntry]
  | true =>
      rcases answer : backend.ask lobby.gate.backend (plan.visitor request) with ⟨verdict, state⟩
      let asked := (lobby.come plan request).change state
      let start := lobby.gate.time
      let sampled := !isUnsampled plan.settings request.path
      have waits : asked.visits[lobby.visits.length]? = some ⟨request, start,
          .waiting (.ask (plan.visitor request) start sampled),
          (lobby.gate.ask plan request).2.eventsSince lobby.gate⟩ := by
        simp only [asked, change, come, receive_of_enabled enabled, List.getElem?_concat_length,
          start, sampled]
      have decided : asked.gate.proceed? plan
          (.waiting (.ask (plan.visitor request) start sampled)) (.decided verdict)
          = some (.ofEntry entered.1, entered.2) := by
        simp only [proceed?, entered, enter, enabled, Bool.not_true, Bool.false_eq_true, if_false,
          ask_visitor, backend_ask, answer, asked, change, come, receive_of_enabled enabled, start,
          sampled]
      simp only [coming, enabled, if_true, answer]
      exact run_meet waits decided

section Handling

variable {number : Nat} {visit : Visit} {passage : Passage}

/-- A request that leaves a gate reports its end and goes as it does before any backend. -/
theorem run_leaving (plan : Plan) (backend : Backend σ)
    (found : lobby.visits[number]? = some visit) (handling : visit.stage = .handling passage)
    (ending : HandlerEnd) :
    let left := lobby.gate.leave plan backend passage ending
    let after := lobby.run plan (lobby.leaving backend number passage ending)
    after.gate = left.2 ∧ after.stage? number = some (.ended left.1) := by
  intro left
  cases metering : passage.verdict.any Verdict.contacted with
  | false =>
      have proceeded : lobby.gate.proceed? plan visit.stage (.finished ending)
          = some (.ended left.1, left.2) := by
        rw [handling, proceed?, finishing]
        cases given : passage.verdict with
        | none => simp only [left, leave, given]
        | some verdict =>
            have uncontacted : verdict.contacted = false := by simpa [given] using metering
            simp only [left, leave, given, uncontacted, Bool.false_eq_true, if_false]
      simp only [leaving, metering, Bool.false_eq_true, if_false]
      exact run_meet found proceeded
  | true =>
      obtain ⟨verdict, given, contacted⟩ := (Option.any_eq_true _ _).mp metering
      let completion := lobby.gate.completion passage ending
      rcases answer : backend.report lobby.gate.backend completion with ⟨delivered, state⟩
      have proceeded : lobby.gate.proceed? plan visit.stage (.finished ending)
          = some (.waiting (.report verdict ending completion),
              lobby.gate.record (.reported completion)) := by
        rw [handling, proceed?, finishing_of_contacted plan lobby.gate given contacted]
      have delivery : ({ lobby.gate.record (.reported completion) with backend := state } :
          Gate σ).proceed? plan (.waiting (.report verdict ending completion))
            (.delivered delivered) = some (.ended left.1, left.2) := by
        simp only [proceed?, left, leave, given, contacted, if_true, report, completion, answer]
      simp only [leaving, metering, if_true, answer, completion]
      exact run_meet_meet found proceeded delivery

/-- A request that is dropped in its handler at a gate is dropped as it is before any backend. -/
theorem run_dropping (plan : Plan) (backend : Backend σ)
    (found : lobby.visits[number]? = some visit) (handling : visit.stage = .handling passage)
    (canReport : Bool) :
    let after := lobby.run plan (lobby.dropping backend number passage canReport)
    after.gate = lobby.gate.drop plan backend passage canReport
      ∧ after.stage? number = some .dropped := by
  cases metering : passage.verdict.any Verdict.contacted with
  | false =>
      have proceeded : lobby.gate.proceed? plan visit.stage (.dropped canReport)
          = some (.dropped, lobby.gate) := by
        rw [handling, proceed?, abandoning_of_not_contacted plan lobby.gate metering]
      simp only [dropping, drop, metering, Bool.false_and, Bool.false_eq_true, if_false]
      exact run_meet found proceeded
  | true =>
      obtain ⟨verdict, given, contacted⟩ := (Option.any_eq_true _ _).mp metering
      obtain ⟨released, lost⟩ := abandoning_of_contacted plan lobby.gate given contacted
      cases canReport with
      | false =>
          have proceeded : lobby.gate.proceed? plan visit.stage (.dropped false)
              = some (.dropped, lobby.gate.warn plan .unreleased) := by
            rw [handling, proceed?, lost]
          simp only [dropping, drop, metering, Bool.and_false, Bool.false_eq_true, if_false, if_true]
          exact run_meet found proceeded
      | true =>
          let completion := lobby.gate.droppedCompletion passage
          rcases answer : backend.report lobby.gate.backend completion with ⟨delivered, state⟩
          have proceeded : lobby.gate.proceed? plan visit.stage (.dropped true)
              = some (.waiting (.release verdict completion),
                  lobby.gate.record (.reported completion)) := by
            rw [handling, proceed?, released]
          simp only [dropping, drop, metering, Bool.and_self, if_true, answer, completion, report]
          exact run_meet_meet found proceeded rfl

end Handling

end Gate.Lobby

end AdmissionControl
