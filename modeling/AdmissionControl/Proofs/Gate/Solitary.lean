import AdmissionControl.Gate.Crowd
import AdmissionControl.Proofs.Gate.Metering

/-!
# A request that nobody disturbs

The steps of a call that no other step comes between, and that has its reply, are the whole call. So
a request that has the client to itself goes through the gate as if each call were one step: it
enters, it leaves, and it is dropped in its handler, exactly as the gate says for one request.
-/

namespace AdmissionControl

open Wire

/-- A call that failed gives the same result as the answer that is taken for its failure. -/
theorem Backend.resultOr_recover {α : Type} (fallback : α) (outcome : Client.Outcome α) :
    resultOr fallback (outcome.recover fallback) = resultOr fallback outcome := by
  cases outcome <;> rfl

/-- Entering the gate before a shared client is asking, calling and being judged. -/
theorem Gate.enter_shared {σ κ : Type} {plan : Gate.Plan} (enabled : plan.settings.enabled = true)
    (transport : Transport σ κ) (gate : Gate (Backend.Shared σ κ)) (request : Http.Request) :
    let asked := gate.ask plan request
    let after := asked.2.backend.client.call transport asked.2.backend.world (.admission asked.1)
      Client.readVerdict
    let answered : Gate (Backend.Shared σ κ) :=
      { asked.2 with backend := ⟨after.client, after.world⟩ }
    gate.enter plan (Backend.shared transport) request
      = answered.judge plan asked.1 gate.time (!isUnsampled plan.settings request.path)
          (Backend.resultOr .failOpen after.outcome) := by
  intro asked after answered
  rw [enter, if_neg (by simp [enabled])]
  simp only [Backend.shared, Client.admission, Client.tryAdmission, Backend.resultOr_recover]
  rfl

namespace Gate.Crowd

variable {σ κ : Type} {plan : Plan} {transport : Transport σ κ} {crowd : Crowd σ κ}

section Steps

variable {number : Nat} {job : Job} {link : Client.Link κ}

/-- A request that takes the client has it to itself, with the connection. -/
theorem take_of_some (free : crowd.calling = none)
    (waits : crowd.requests[number]? = some (.waiting job)) {opened : σ}
    (linked : crowd.gate.backend.client.ensureLink transport crowd.world = some (link, opened)) :
    crowd.take plan transport number
      = { gate := { crowd.gate with backend := ⟨{}, opened⟩ }
          requests := crowd.requests.set number .calling
          calling := some ⟨number, job, .opened link⟩ } := by
  unfold take
  rw [free, waits]
  dsimp only
  rw [linked]
  rfl

/-- Without a connection the call is over at once. -/
theorem take_of_none (free : crowd.calling = none)
    (waits : crowd.requests[number]? = some (.waiting job))
    (linked : crowd.gate.backend.client.ensureLink transport crowd.world = none) :
    crowd.take plan transport number
      = crowd.goOn plan number job fun _ => ⟨.failed .transport, {}, crowd.world⟩ := by
  unfold take
  rw [free, waits]
  dsimp only
  rw [linked]

theorem send_of_opened (calling : crowd.calling = some ⟨number, job, .opened link⟩) :
    let sent := transport.send crowd.world link.connection (Text.encode job.request.encode)
    crowd.send transport
      = { gate := { crowd.gate with backend := ⟨crowd.gate.backend.client, sent.2⟩ }
          requests := crowd.requests
          calling := some ⟨number, job, .sent link sent.1⟩ } := by
  unfold send
  rw [calling]
  rfl

theorem receive_of_sent {arrival : Arrival}
    (calling : crowd.calling = some ⟨number, job, .sent link arrival⟩)
    (answered : Client.isAnswered link arrival = true) :
    crowd.receive plan transport
      = crowd.goOn plan number job fun accept =>
          Client.settle transport link crowd.world arrival accept := by
  unfold receive
  rw [calling]
  exact if_pos answered

variable (crowd) (settles : ∀ {α : Type}, (List Char → Except Fault α) → Client.After σ κ α)

/-- A call that asked for admission gives the request its verdict. -/
theorem goOn_ask (visitor : Visitor) (start : Nat) (sampled : Bool) :
    let after := settles Client.readVerdict
    let answered : Gate (Backend.Shared σ κ) :=
      { crowd.gate with backend := ⟨after.client, after.world⟩ }
    let judged := answered.judge plan visitor start sampled
      (Backend.resultOr .failOpen after.outcome)
    crowd.goOn plan number (.ask visitor start sampled) settles
      = { gate := judged.2
          requests := crowd.requests.set number (.ofEntry judged.1)
          calling := none } := rfl

/-- A call that reported for a request lets it leave. -/
theorem goOn_report (verdict : Verdict) (ending : HandlerEnd) (completion : Completion) :
    let after := settles Client.readReceipt
    let reported : Gate (Backend.Shared σ κ) :=
      { crowd.gate with backend := ⟨after.client, after.world⟩ }
    let left := (reported.warnIf plan (!Backend.resultOr false after.outcome)
      .undelivered).depart plan verdict ending
    crowd.goOn plan number (.report verdict ending completion) settles
      = { gate := left.2
          requests := crowd.requests.set number (.ended left.1)
          calling := none } := rfl

/-- A call that reported on its own has nothing to go on to. -/
theorem goOn_release (verdict : Verdict) (completion : Completion) :
    let after := settles Client.readReceipt
    crowd.goOn plan number (.release verdict completion) settles
      = { gate := { crowd.gate with backend := ⟨after.client, after.world⟩ }
          requests := crowd.requests.set number .dropped
          calling := none } := rfl

theorem goOn_calling (job : Job) : (crowd.goOn plan number job settles).calling = none := by
  cases job <;> rfl

/-- How a request goes on does not depend on what its call did to the client, the world and its
stage. -/
theorem goOn_congr (job : Job) (call : Option (Call κ)) (shared : Backend.Shared σ κ)
    (stage : Stage) :
    goOn plan
        { gate := { crowd.gate with backend := shared }
          requests := crowd.requests.set number stage
          calling := call } number job settles
      = crowd.goOn plan number job settles := by
  cases job <;> simp [goOn_ask, goOn_report, goOn_release, List.set_set]

end Steps

/-- The request that waits under a number takes the client, sends its request line and reads the
reply. -/
def callThrough (plan : Plan) (transport : Transport σ κ) (crowd : Crowd σ κ) (number : Nat) :
    Crowd σ κ :=
  ((crowd.take plan transport number).send transport).receive plan transport

/-- A request line that is sent now has a reply, if there is a connection at all. -/
def IsAnswered (transport : Transport σ κ) (crowd : Crowd σ κ) (request : Request) : Prop :=
  ∀ link opened, crowd.gate.backend.client.ensureLink transport crowd.world = some (link, opened) →
    Client.isAnswered link
      (transport.send opened link.connection (Text.encode request.encode)).1 = true

/-- The steps of an undisturbed call with a reply are the whole call. -/
theorem callThrough_eq (free : crowd.calling = none) {number : Nat} {job : Job}
    (waits : crowd.requests[number]? = some (.waiting job))
    (answered : crowd.IsAnswered transport job.request) :
    crowd.callThrough plan transport number
      = crowd.goOn plan number job fun accept =>
          crowd.gate.backend.client.call transport crowd.world job.request accept := by
  unfold callThrough
  cases linked : crowd.gate.backend.client.ensureLink transport crowd.world with
  | none =>
      rw [take_of_none free waits linked]
      simp only [send, receive, goOn_calling, Client.call, linked]
  | some entry =>
      obtain ⟨link, opened⟩ := entry
      rw [take_of_some free waits linked, send_of_opened rfl,
        receive_of_sent rfl (answered link opened linked)]
      simp only [goOn_congr, Client.call, linked, Client.exchange]
      rfl

/-- A request that comes and calls through enters the gate. -/
theorem callThrough_come (enabled : plan.settings.enabled = true) (free : crowd.calling = none)
    (request : Http.Request)
    (answered : ∀ visitor, crowd.IsAnswered transport (.admission visitor)) :
    let entered := crowd.gate.enter plan (Backend.shared transport) request
    (crowd.come plan request).callThrough plan transport crowd.requests.length
      = { gate := entered.2
          requests := crowd.requests ++ [.ofEntry entered.1]
          calling := none } := by
  intro entered
  let asked := crowd.gate.ask plan request
  let sampled := !isUnsampled plan.settings request.path
  let job : Job := .ask asked.1 crowd.gate.time sampled
  have came : crowd.come plan request
      = { crowd with gate := asked.2, requests := crowd.requests ++ [.waiting job] } := by
    rw [come, if_neg (by simp [enabled])]
  have sameBackend : asked.2.backend = crowd.gate.backend := backend_ask crowd.gate request
  have stillFree : (crowd.come plan request).calling = none := by rw [came]; exact free
  have waits : (crowd.come plan request).requests[crowd.requests.length]? = some (.waiting job) := by
    rw [came]
    exact List.getElem?_concat_length
  have replied : (crowd.come plan request).IsAnswered transport job.request := by
    rw [came]
    intro link opened linked
    rw [world, sameBackend] at linked
    exact answered asked.1 link opened linked
  have replaced (stage : Stage) :
      (crowd.requests ++ [Stage.waiting job]).set crowd.requests.length stage
        = crowd.requests ++ [stage] := by
    rw [List.set_append_right _ _ (Nat.le_refl _), Nat.sub_self]
    rfl
  rw [callThrough_eq stillFree waits replied, came, goOn_ask, replaced]
  simp only [entered, enter_shared enabled]
  rfl

section Handling

variable {number : Nat} {passage : Passage} {verdict : Verdict}

/-- A request whose handler ends and that calls through leaves the gate. -/
theorem callThrough_finish (free : crowd.calling = none)
    (handling : crowd.requests[number]? = some (.handling passage))
    (given : passage.verdict = some verdict) (contacted : verdict.contacted = true)
    (ending : HandlerEnd)
    (answered : crowd.IsAnswered transport (crowd.gate.completion passage ending).request) :
    let left := crowd.gate.leave plan (Backend.shared transport) passage ending
    (crowd.finish plan number ending).callThrough plan transport number
      = { gate := left.2
          requests := crowd.requests.set number (.ended left.1)
          calling := none } := by
  intro left
  let completion := crowd.gate.completion passage ending
  let job : Job := .report verdict ending completion
  have finished : crowd.finish plan number ending
      = { crowd with
          gate := crowd.gate.record (.reported completion)
          requests := crowd.requests.set number (.waiting job) } := by
    simp only [finish, handling, finishing, given, contacted]
    rfl
  have waits : (crowd.finish plan number ending).requests[number]? = some (.waiting job) := by
    rw [finished]
    exact List.getElem?_set_self (List.getElem?_eq_some_iff.mp handling).1
  rw [callThrough_eq (finished ▸ free) waits (finished ▸ answered), finished, goOn_report,
    List.set_set]
  simp only [left, leave, given, contacted, report, Backend.shared, Client.complete,
    Backend.resultOr_recover]
  rfl

/-- A request that is dropped in its handler, and whose report calls through, is dropped at the
gate. -/
theorem callThrough_drop (free : crowd.calling = none)
    (handling : crowd.requests[number]? = some (.handling passage))
    (given : passage.verdict = some verdict) (contacted : verdict.contacted = true)
    (answered : crowd.IsAnswered transport (crowd.gate.droppedCompletion passage).request) :
    (crowd.drop plan transport number true).callThrough plan transport number
      = { gate := crowd.gate.drop plan (Backend.shared transport) passage true
          requests := crowd.requests.set number .dropped
          calling := none } := by
  let completion := crowd.gate.droppedCompletion passage
  let job : Job := .release verdict completion
  have dropped : crowd.drop plan transport number true
      = { crowd with
          gate := crowd.gate.record (.reported completion)
          requests := crowd.requests.set number (.waiting job) } := by
    have here : crowd.drop plan transport number true
        = crowd.dropHandling plan number passage true := by
      simp only [drop, free, handling, Option.filter_none]
    rw [here]
    simp only [dropHandling, abandoning, given, Option.filter_some, contacted, if_true]
    rfl
  have waits : (crowd.drop plan transport number true).requests[number]? = some (.waiting job) := by
    rw [dropped]
    exact List.getElem?_set_self (List.getElem?_eq_some_iff.mp handling).1
  rw [callThrough_eq (dropped ▸ free) waits (dropped ▸ answered), dropped, goOn_release,
    List.set_set]
  simp only [Gate.drop, given, Option.any_some, contacted, report, Backend.shared, Client.complete]
  rfl

end Handling

end Gate.Crowd

end AdmissionControl
