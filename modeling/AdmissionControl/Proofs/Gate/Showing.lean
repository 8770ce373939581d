import AdmissionControl.Proofs.Gate.Drops
import AdmissionControl.Proofs.Gate.Reports

/-!
# A shared client as a backend that takes its time

To the requests behind a gate, the client that they share is a backend that gives a verdict or
delivers a report some time. So whatever the far end does, and wherever requests are dropped, a
crowd shows a lobby: every step of the crowd is a few steps of the lobby, in which the gate does
the same for each request.
-/

namespace AdmissionControl

open Wire

namespace Gate

variable {σ κ : Type}

section Calls

variable (settles : ∀ {α : Type}, (List Char → Except Fault α) → Client.After σ κ α)

/-- What a request learns from the end of the call for its job. -/
def Job.incident : Job → Incident
  | .ask _ _ _ => .decided (Backend.resultOr .failOpen (settles Client.readVerdict).outcome)
  | _ => .delivered (Backend.resultOr false (settles Client.readReceipt).outcome)

/-- The client and the world after the call for a job. -/
def Job.shared : Job → Backend.Shared σ κ
  | .ask _ _ _ => ⟨(settles Client.readVerdict).client, (settles Client.readVerdict).world⟩
  | _ => ⟨(settles Client.readReceipt).client, (settles Client.readReceipt).world⟩

end Calls

/-- What stands at a place of a list with one more entry. -/
theorem getElem?_concat {α : Type} (entries : List α) (last : α) (place : Nat) :
    (entries ++ [last])[place]?
      = if place = entries.length then some last else entries[place]? := by
  split
  · next atEnd => rw [atEnd, List.getElem?_concat_length]
  · next elsewhere =>
    rcases Nat.lt_or_gt_of_ne elsewhere with before | beyond
    · exact List.getElem?_append_left before
    · rw [List.getElem?_eq_none (by simp; omega), List.getElem?_eq_none (by omega)]

namespace Crowd

/-- The request that a step concerns. -/
def concerned? (crowd : Crowd σ κ) : Action → Option Nat
  | .come _ => some crowd.requests.length
  | .take number | .finish number _ | .drop number _ => some number
  | .send | .receive => crowd.calling.map (·.number)
  | .advance _ => none

/-- What was done for each request, when this is done for one more. -/
def telling (told : Nat → List Event) (concerned : Option Nat) (events : List Event) :
    Nat → List Event :=
  fun number => told number ++ if concerned = some number then events else []

/-- What the gate does for a request in a run. -/
def eventsOf (plan : Plan) (transport : Transport σ κ) (number : Nat) (crowd : Crowd σ κ) :
    List Action → List Event
  | [] => []
  | action :: rest =>
      let after := crowd.act plan transport action
      (if crowd.concerned? action = some number then after.gate.eventsSince crowd.gate else [])
        ++ eventsOf plan transport number after rest

/-- The request that comes in a step. -/
def Action.request? : Action → Option Http.Request
  | .come request => some request
  | _ => none

/-- The requests that come in a run. -/
def came (actions : List Action) : List Http.Request := actions.filterMap Action.request?

/-- A crowd shows a lobby: the same gate, with the same requests at the same stages. A request that
has the client waits for its job to be done. These requests came, and the gate has done for each
what `told` says. -/
structure Shows (crowd : Crowd σ κ) (lobby : Lobby (Backend.Shared σ κ))
    (asked : List Http.Request) (told : Nat → List Event) : Prop where
  gate : lobby.gate = crowd.gate
  length : lobby.visits.length = crowd.requests.length
  requests : lobby.visits.map (·.request) = asked
  events : ∀ number, (lobby.visits[number]?.map (·.events)).getD [] = told number
  stage : ∀ number, crowd.requests[number]? ≠ some .calling →
    lobby.stage? number = crowd.requests[number]?
  called : ∀ call, crowd.calling = some call →
    crowd.requests[call.number]? = some .calling
      ∧ lobby.stage? call.number = some (.waiting call.job)
  calling : ∀ number, crowd.requests[number]? = some .calling →
    ∃ call, crowd.calling = some call ∧ call.number = number

variable {plan : Plan} {transport : Transport σ κ} {crowd : Crowd σ κ}
  {lobby : Lobby (Backend.Shared σ κ)} {asked : List Http.Request} {told : Nat → List Event}
  {number : Nat}

theorem shows_empty (gate : Gate (Backend.Shared σ κ)) :
    ({ gate } : Crowd σ κ).Shows { gate } [] fun _ => [] where
  gate := rfl
  length := rfl
  requests := rfl
  events _ := rfl
  stage _ _ := rfl
  called _ calling := by cases calling
  calling _ calling := by cases calling

/-- A request at another stage is not the one that has the client. -/
theorem Shows.filter_calling (shows : crowd.Shows lobby asked told)
    (notCalling : crowd.requests[number]? ≠ some .calling) :
    crowd.calling.filter (·.number ≠ number) = crowd.calling := by
  cases calling : crowd.calling with
  | none => rfl
  | some call =>
      have different : call.number ≠ number := by
        rintro rfl
        exact notCalling (shows.called call calling).1
      simp [different]

section Steps

/-- A call goes on, and changes nothing but the client and the world. -/
theorem Shows.change (shows : crowd.Shows lobby asked told) (shared : Backend.Shared σ κ)
    {calling : Option (Call κ)}
    (same : calling.map (fun call => (call.number, call.job))
      = crowd.calling.map (fun call => (call.number, call.job))) :
    ({ crowd with gate := { crowd.gate with backend := shared }, calling } : Crowd σ κ).Shows
      (lobby.change shared) asked told where
  gate := by simp only [Lobby.change, shows.gate]
  length := shows.length
  requests := shows.requests
  events := shows.events
  stage := shows.stage
  called call isCalling := by
    obtain ⟨before, calledBefore, sameCall⟩ := Option.map_eq_some_iff.mp
      (same.symm.trans (congrArg (Option.map fun call => (call.number, call.job)) isCalling))
    obtain ⟨number, job⟩ := Prod.mk.inj sameCall
    rw [← number, ← job]
    exact shows.called before calledBefore
  calling number isCalling := by
    obtain ⟨before, calledBefore, numberEq⟩ := shows.calling number isCalling
    obtain ⟨call, called, sameCall⟩ := Option.map_eq_some_iff.mp
      (same.trans (congrArg (Option.map fun call => (call.number, call.job)) calledBefore))
    exact ⟨call, called, (Prod.mk.inj sameCall).1.trans numberEq⟩

/-- A request proceeds, after the client and the world have changed. -/
theorem Shows.restage (shows : crowd.Shows lobby asked told) {shared : Backend.Shared σ κ}
    {old stage : Stage} {incident : Incident} {gate : Gate (Backend.Shared σ κ)}
    (here : lobby.stage? number = some old)
    (proceeded : ({ crowd.gate with backend := shared } : Gate (Backend.Shared σ κ)).proceed? plan
      old incident = some (stage, gate)) :
    let after : Crowd σ κ :=
      { gate
        requests := crowd.requests.set number stage
        calling := crowd.calling.filter (·.number ≠ number) }
    after.Shows (lobby.run plan [.change shared, .meet number incident]) asked
      (telling told (some number) (gate.eventsSince crowd.gate)) := by
  intro after
  have notCalling : stage ≠ .calling := by
    obtain ⟨_, _, proceeds, _⟩ := proceeds_of_proceed? proceeded
    exact proceeds.ne_calling
  obtain ⟨visit, found, rfl⟩ := Lobby.exists_of_stage? here
  let changed := lobby.change shared
  have changedGate : changed.gate = { crowd.gate with backend := shared } := by
    simp only [changed, Lobby.change, shows.gate]
  obtain ⟨gateEq, met⟩ :=
    Lobby.meet_of_proceed? (show changed.visits[number]? = some visit from found)
      (changedGate ▸ proceeded)
  have since : gate.eventsSince changed.gate = gate.eventsSince crowd.gate := by
    rw [changedGate]
    rfl
  have inBounds : number < crowd.requests.length := by
    rw [← shows.length]
    exact (List.getElem?_eq_some_iff.mp found).1
  have others : ∀ {other}, other ≠ number →
      (changed.meet plan number incident).visits[other]? = lobby.visits[other]? :=
    fun different => Lobby.visits_meet_of_ne different incident
  have otherStage : ∀ {other}, other ≠ number →
      (changed.meet plan number incident).stage? other = lobby.stage? other := by
    intro other different
    rw [Lobby.stage?, Lobby.stage?, others different]
  refine ⟨gateEq, ?_, ?_, ?_, ?_, ?_, ?_⟩
  · rw [List.length_set, ← shows.length]
    exact Lobby.length_visits_meet changed number incident
  · exact (Lobby.requests_meet changed number incident).trans shows.requests
  · intro other
    rw [telling, ← shows.events other]
    by_cases concerned : other = number
    · subst concerned
      change ((changed.meet plan other incident).visits[other]?.map _).getD [] = _
      rw [met, found, if_pos rfl, ← since]
      rfl
    · change ((changed.meet plan number incident).visits[other]?.map _).getD [] = _
      rw [others concerned, if_neg (by simpa using Ne.symm concerned), List.append_nil]
  · intro other notCalling
    by_cases concerned : other = number
    · subst concerned
      rw [List.getElem?_set_self inBounds]
      exact Lobby.stage?_eq met
    · rw [List.getElem?_set_ne (Ne.symm concerned)] at notCalling ⊢
      rw [← shows.stage other notCalling]
      exact otherStage concerned
  · intro call isCalling
    obtain ⟨calling, different⟩ := Option.filter_eq_some_iff.mp isCalling
    have different : call.number ≠ number := by simpa using different
    obtain ⟨isAtCall, waits⟩ := shows.called call calling
    refine ⟨(List.getElem?_set_ne different.symm).trans isAtCall, ?_⟩
    exact (otherStage different).trans waits
  · intro other isCalling
    have different : other ≠ number := by
      rintro rfl
      rw [List.getElem?_set_self inBounds] at isCalling
      exact notCalling (Option.some.inj isCalling)
    rw [List.getElem?_set_ne different.symm] at isCalling
    obtain ⟨call, calling, numberEq⟩ := shows.calling other isCalling
    refine ⟨call, ?_, numberEq⟩
    simp [after, calling, numberEq, different]

/-- A request comes. -/
theorem Shows.come (shows : crowd.Shows lobby asked told) (request : Http.Request) :
    let after := crowd.come plan request
    after.Shows (lobby.run plan [.come request]) (asked ++ [request])
      (telling told (some crowd.requests.length) (after.gate.eventsSince crowd.gate)) := by
  intro after
  obtain ⟨gate, stage, came, cameLobby, notCalling⟩ : ∃ gate stage,
      after = { crowd with gate, requests := crowd.requests ++ [stage] }
        ∧ lobby.come plan request = { gate, visits := lobby.visits ++
            [⟨request, crowd.gate.time, stage, gate.eventsSince crowd.gate⟩] }
        ∧ stage ≠ .calling := by
    simp only [after, Crowd.come, Lobby.come, Gate.receive, shows.gate]
    cases plan.settings.enabled with
    | false => exact ⟨_, _, rfl, rfl, by simp⟩
    | true => exact ⟨_, _, rfl, rfl, by simp⟩
  have run : lobby.run plan [.come request] = lobby.come plan request := rfl
  rw [run, came, cameLobby]
  refine ⟨rfl, ?_, ?_, ?_, ?_, ?_, ?_⟩
  · simp only [List.length_append, shows.length]
    rfl
  · rw [List.map_append, shows.requests]
    rfl
  · intro other
    dsimp only
    rw [getElem?_concat, shows.length, telling, ← shows.events]
    by_cases new : other = crowd.requests.length
    · have absent : lobby.visits[other]? = none := by simp [new, shows.length]
      rw [if_pos new, if_pos (congrArg some new.symm), absent]
      rfl
    · rw [if_neg new, if_neg (by simpa using Ne.symm new), List.append_nil]
  · intro other notAtCall
    dsimp only [Lobby.stage?] at notAtCall ⊢
    rw [getElem?_concat, shows.length]
    rw [getElem?_concat] at notAtCall ⊢
    by_cases new : other = crowd.requests.length
    · rw [if_pos new, if_pos new]
      rfl
    · rw [if_neg new] at notAtCall
      rw [if_neg new, if_neg new]
      exact shows.stage other notAtCall
  · intro call isCalling
    obtain ⟨isAtCall, waits⟩ := shows.called call isCalling
    have old : call.number ≠ crowd.requests.length :=
      Nat.ne_of_lt (List.getElem?_eq_some_iff.mp isAtCall).1
    dsimp only [Lobby.stage?]
    rw [getElem?_concat, if_neg old, getElem?_concat, shows.length, if_neg old]
    exact ⟨isAtCall, waits⟩
  · intro other isAtCall
    dsimp only at isAtCall
    rw [getElem?_concat] at isAtCall
    split at isAtCall
    · exact absurd (Option.some.inj isAtCall) notCalling
    · exact shows.calling other isAtCall

/-- A request that waits takes the client. -/
theorem Shows.take (shows : crowd.Shows lobby asked told) (free : crowd.calling = none) {job : Job}
    (waits : crowd.requests[number]? = some (.waiting job)) (link : Client.Link κ)
    (shared : Backend.Shared σ κ) :
    let after : Crowd σ κ :=
      { gate := { crowd.gate with backend := shared }
        requests := crowd.requests.set number .calling
        calling := some ⟨number, job, .opened link⟩ }
    after.Shows (lobby.change shared) asked told := by
  intro after
  have inBounds : number < crowd.requests.length := (List.getElem?_eq_some_iff.mp waits).1
  have waitsToo : lobby.stage? number = some (.waiting job) := by
    rw [shows.stage number (by simp [waits]), waits]
  refine ⟨?_, ?_, shows.requests, shows.events, ?_, ?_, ?_⟩
  · simp only [Lobby.change, shows.gate, after]
  · rw [List.length_set]
    exact shows.length
  · intro other notAtCall
    have different : number ≠ other := by
      rintro rfl
      exact notAtCall (List.getElem?_set_self inBounds)
    rw [List.getElem?_set_ne different] at notAtCall ⊢
    exact shows.stage other notAtCall
  · rintro call ⟨⟩
    exact ⟨List.getElem?_set_self inBounds, waitsToo⟩
  · intro other isAtCall
    refine ⟨_, rfl, ?_⟩
    by_contra different
    rw [List.getElem?_set_ne different] at isAtCall
    obtain ⟨call, calling, _⟩ := shows.calling other isAtCall
    rw [free] at calling
    cases calling

/-- A call is over, and the request that made it goes on. -/
theorem Shows.goOn (shows : crowd.Shows lobby asked told) {job : Job}
    (here : lobby.stage? number = some (.waiting job))
    (settles : ∀ {α : Type}, (List Char → Except Fault α) → Client.After σ κ α)
    (alone : crowd.calling.filter (·.number ≠ number) = none) :
    let after := crowd.goOn plan number job settles
    after.Shows (lobby.run plan [.change (job.shared settles), .meet number (job.incident settles)])
      asked (telling told (some number) (after.gate.eventsSince crowd.gate)) := by
  intro after
  obtain ⟨stage, gate, proceeded, eq⟩ : ∃ stage gate,
      ({ crowd.gate with backend := job.shared settles } : Gate _).proceed? plan (.waiting job)
          (job.incident settles) = some (stage, gate)
        ∧ after = { gate, requests := crowd.requests.set number stage, calling := none } := by
    cases job <;> exact ⟨_, _, rfl, rfl⟩
  have restaged := shows.restage here proceeded
  rw [alone] at restaged
  rw [eq]
  exact restaged

/-- The handler of a request ends. -/
theorem finish_eq {passage : Passage} (found : crowd.requests[number]? = some (.handling passage))
    (ending : HandlerEnd) :
    let finished := crowd.gate.finishing plan passage ending
    crowd.finish plan number ending
      = { crowd with gate := finished.2, requests := crowd.requests.set number finished.1 } := by
  simp only [finish, found]
  rfl

/-- A request is dropped in its handler. -/
theorem dropHandling_eq (passage : Passage) (canReport : Bool) :
    let dropped := crowd.gate.abandoning plan passage canReport
    crowd.dropHandling plan number passage canReport
      = { crowd with gate := dropped.2, requests := crowd.requests.set number dropped.1 } := rfl

theorem telling_nil (told : Nat → List Event) (concerned : Option Nat) :
    telling told concerned [] = told := by
  funext number
  simp [telling]

/-- A step in which the gate does nothing. -/
theorem Shows.quietly {after : Crowd σ κ} (shows : after.Shows lobby asked told)
    (same : after.gate.log = crowd.gate.log) (concerned : Option Nat) :
    after.Shows lobby (asked ++ [])
      (telling told concerned (after.gate.eventsSince crowd.gate)) := by
  rw [eventsSince, same, List.drop_length, telling_nil, List.append_nil]
  exact shows

section Acting

variable (plan) (transport) (shows : crowd.Shows lobby asked told)
include shows

/-- A step after which the crowd is as it was. -/
theorem Shows.unmoved {after : Crowd σ κ} (eq : after = crowd) (concerned : Option Nat) :
    ∃ steps, after.Shows (lobby.run plan steps) (asked ++ [])
      (telling told concerned (after.gate.eventsSince crowd.gate)) := by
  rw [eq]
  exact ⟨[], shows.quietly rfl concerned⟩

/-- A step in which a request proceeds. -/
theorem Shows.restaged {after : Crowd σ κ} {shared : Backend.Shared σ κ} {old stage : Stage}
    {incident : Incident} {gate : Gate (Backend.Shared σ κ)}
    (here : lobby.stage? number = some old)
    (proceeded : ({ crowd.gate with backend := shared } : Gate (Backend.Shared σ κ)).proceed? plan
      old incident = some (stage, gate))
    (eq : after =
      { gate
        requests := crowd.requests.set number stage
        calling := crowd.calling.filter (·.number ≠ number) }) :
    ∃ steps, after.Shows (lobby.run plan steps) (asked ++ [])
      (telling told (some number) (after.gate.eventsSince crowd.gate)) := by
  rw [eq, List.append_nil]
  exact ⟨_, shows.restage here proceeded⟩

theorem Shows.act_take (number : Nat) :
    let after := crowd.take plan transport number
    ∃ steps, after.Shows (lobby.run plan steps) (asked ++ [])
      (telling told (some number) (after.gate.eventsSince crowd.gate)) := by
  intro after
  by_cases waits : crowd.calling = none ∧ ∃ job, crowd.requests[number]? = some (.waiting job)
  · obtain ⟨free, job, found⟩ := waits
    cases linked : crowd.gate.backend.client.ensureLink transport crowd.world with
    | some entry =>
        obtain ⟨link, opened⟩ := entry
        have eq : after = _ := take_of_some free found linked
        rw [eq]
        exact ⟨[.change ⟨{}, opened⟩], (shows.take free found link _).quietly rfl _⟩
    | none =>
        have eq : after = _ := take_of_none free found linked
        have here : lobby.stage? number = some (.waiting job) := by
          rw [shows.stage number (by simp [found]), found]
        rw [eq, List.append_nil]
        exact ⟨_, shows.goOn here _ (by simp [free])⟩
  · have eq : after = crowd := by
      simp only [after, Crowd.take]
      split
      · next free found => exact absurd ⟨free, _, found⟩ waits
      · rfl
    exact shows.unmoved plan eq _

theorem Shows.act_send :
    let after := crowd.send transport
    ∃ steps, after.Shows (lobby.run plan steps) (asked ++ [])
      (telling told (crowd.concerned? .send) (after.gate.eventsSince crowd.gate)) := by
  intro after
  by_cases opened : ∃ number job link, crowd.calling = some ⟨number, job, .opened link⟩
  · obtain ⟨number, job, link, calling⟩ := opened
    have eq : after = _ := send_of_opened calling
    rw [eq]
    exact ⟨[.change _], (shows.change _ (by simp [calling])).quietly rfl _⟩
  · have eq : after = crowd := by
      simp only [after, send]
      split
      · next calling => exact absurd ⟨_, _, _, calling⟩ opened
      · rfl
    exact shows.unmoved plan eq _

theorem Shows.act_receive :
    let after := crowd.receive plan transport
    ∃ steps, after.Shows (lobby.run plan steps) (asked ++ [])
      (telling told (crowd.concerned? .receive) (after.gate.eventsSince crowd.gate)) := by
  intro after
  by_cases sent : ∃ number job link arrival,
      crowd.calling = some ⟨number, job, .sent link arrival⟩
        ∧ Client.isAnswered link arrival = true
  · obtain ⟨number, job, link, arrival, calling, answered⟩ := sent
    have eq : after = _ := receive_of_sent calling answered
    have concerned : crowd.concerned? .receive = some number := by
      rw [concerned?, calling, Option.map_some]
    rw [eq, concerned, List.append_nil]
    exact ⟨_, shows.goOn (shows.called _ calling).2 _ (by simp [calling])⟩
  · have eq : after = crowd := by
      simp only [after, receive]
      split
      · next calling =>
        split
        · next answered => exact absurd ⟨_, _, _, _, calling, answered⟩ sent
        · rfl
      · rfl
    exact shows.unmoved plan eq _

theorem Shows.act_finish (number : Nat) (ending : HandlerEnd) :
    let after := crowd.finish plan number ending
    ∃ steps, after.Shows (lobby.run plan steps) (asked ++ [])
      (telling told (some number) (after.gate.eventsSince crowd.gate)) := by
  intro after
  by_cases handling : ∃ passage, crowd.requests[number]? = some (.handling passage)
  · obtain ⟨passage, found⟩ := handling
    have eq : after = _ := finish_eq found ending
    have notCalling : crowd.requests[number]? ≠ some .calling := by simp [found]
    have here : lobby.stage? number = some (.handling passage) := by
      rw [shows.stage number notCalling, found]
    let finished := crowd.gate.finishing plan passage ending
    have proceeded : crowd.gate.proceed? plan (.handling passage) (.finished ending)
        = some (finished.1, finished.2) := rfl
    refine shows.restaged plan here proceeded ?_
    rw [eq, shows.filter_calling notCalling]
  · have eq : after = crowd := by
      simp only [after, finish]
      split
      · next found => exact absurd ⟨_, found⟩ handling
      · rfl
    exact shows.unmoved plan eq _

theorem Shows.act_drop (number : Nat) (canReport : Bool) :
    let after := crowd.drop plan transport number canReport
    ∃ steps, after.Shows (lobby.run plan steps) (asked ++ [])
      (telling told (some number) (after.gate.eventsSince crowd.gate)) := by
  intro after
  cases isCalling : crowd.calling.filter (·.number = number) with
  | some call =>
      obtain ⟨calling, sameNumber⟩ := Option.filter_eq_some_iff.mp isCalling
      obtain rfl : call.number = number := by simpa using sameNumber
      cases detached : call.job.isDetached with
      | true =>
          have eq : after = crowd := by simp only [after, drop, isCalling, detached, if_true]
          exact shows.unmoved plan eq _
      | false =>
          let hungUp := transport.hangUp crowd.world call.pending.link.connection
          let gate : Gate (Backend.Shared σ κ) :=
            { crowd.gate with backend := ⟨crowd.gate.backend.client, hungUp⟩ }
          have eq : after =
              { gate, requests := crowd.requests.set call.number .dropped, calling := none } := by
            simp only [after, drop, isCalling, detached, Bool.false_eq_true, if_false]
            rfl
          have dropped : gate.proceed? plan (.waiting call.job) (.dropped canReport)
              = some (.dropped, gate) := by
            rw [proceed?, detached, if_neg Bool.false_ne_true]
          refine shows.restaged plan (shows.called call calling).2 dropped ?_
          rw [eq, calling, Option.filter_some, if_neg (by simp)]
  | none =>
      by_cases isAtCall : crowd.requests[number]? = some .calling
      · have eq : after = crowd := by simp only [after, drop, isCalling, isAtCall]
        exact shows.unmoved plan eq _
      · have others := shows.filter_calling isAtCall
        have here := shows.stage number isAtCall
        cases found : crowd.requests[number]? with
        | none =>
            have eq : after = crowd := by simp only [after, drop, isCalling, found]
            exact shows.unmoved plan eq _
        | some stage =>
            rw [found] at here
            cases stage with
            | waiting job =>
                cases detached : job.isDetached with
                | true =>
                    have eq : after = crowd := by
                      simp only [after, drop, isCalling, found, detached, if_true]
                    exact shows.unmoved plan eq _
                | false =>
                    have dropped : crowd.gate.proceed? plan (.waiting job) (.dropped canReport)
                        = some (.dropped, crowd.gate) := by
                      rw [proceed?, detached, if_neg Bool.false_ne_true]
                    refine shows.restaged plan here dropped ?_
                    simp only [after, drop, isCalling, found, detached, Bool.false_eq_true,
                      if_false, others]
                    rfl
            | handling passage =>
                let dropped := crowd.gate.abandoning plan passage canReport
                have proceeded : crowd.gate.proceed? plan (.handling passage) (.dropped canReport)
                    = some (dropped.1, dropped.2) := rfl
                refine shows.restaged plan here proceeded ?_
                simp only [after, drop, isCalling, found, others]
                exact dropHandling_eq passage canReport
            | _ =>
                have eq : after = crowd := by simp only [after, drop, isCalling, found]
                exact shows.unmoved plan eq _

/-- Every step of a crowd is some steps of the lobby that it shows. -/
theorem Shows.act (action : Action) :
    let after := crowd.act plan transport action
    ∃ steps, after.Shows (lobby.run plan steps) (asked ++ came [action])
      (telling told (crowd.concerned? action) (after.gate.eventsSince crowd.gate)) := by
  cases action with
  | come request => exact ⟨_, shows.come request⟩
  | take number => exact shows.act_take plan transport number
  | send => exact shows.act_send plan transport
  | receive => exact shows.act_receive plan transport
  | finish number ending => exact shows.act_finish plan number ending
  | drop number canReport => exact shows.act_drop plan transport number canReport
  | advance nanoseconds =>
      have advanced : (crowd.advance nanoseconds).Shows
          (lobby.run plan [.advance nanoseconds]) asked told :=
        { shows with
          gate := congrArg (·.advance nanoseconds) shows.gate }
      exact ⟨_, advanced.quietly rfl none⟩

end Acting

end Steps

/-- Every run of a crowd is a run of the lobby that it shows, of the same requests, in which the
gate does the same for each. -/
theorem Shows.run (shows : crowd.Shows lobby asked told) (plan : Plan) (transport : Transport σ κ)
    (actions : List Action) :
    ∃ steps, (crowd.run plan transport actions).Shows (lobby.run plan steps) (asked ++ came actions)
      fun number => told number ++ crowd.eventsOf plan transport number actions := by
  induction actions generalizing crowd lobby asked told with
  | nil =>
      refine ⟨[], ?_⟩
      simp only [came, List.filterMap_nil, eventsOf, List.append_nil]
      exact shows
  | cons action rest inductionHypothesis =>
      obtain ⟨first, showsFirst⟩ := shows.act plan transport action
      obtain ⟨later, showsLater⟩ := inductionHypothesis showsFirst
      refine ⟨first ++ later, ?_⟩
      simp only [telling, List.append_assoc, came, ← List.filterMap_append] at showsLater
      rw [Lobby.run, List.foldl_append]
      exact showsLater

/-- Every run of a crowd that starts without requests shows a run of requests before a backend. -/
theorem run_shows (plan : Plan) (transport : Transport σ κ) (gate : Gate (Backend.Shared σ κ))
    (actions : List Action) :
    let start : Crowd σ κ := { gate }
    ∃ steps, (start.run plan transport actions).Shows (({ gate } : Lobby _).run plan steps)
      (came actions) (start.eventsOf plan transport · actions) := by
  obtain ⟨steps, shows⟩ := (shows_empty gate).run plan transport actions
  simp only [List.nil_append] at shows
  exact ⟨steps, shows⟩

end Crowd

end Gate

end AdmissionControl
