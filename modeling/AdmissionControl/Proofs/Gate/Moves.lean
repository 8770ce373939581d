import AdmissionControl.Proofs.Daemon.Sharing
import AdmissionControl.Proofs.Gate.Solitary
import AdmissionControl.Proofs.Gate.Standing

/-!
# What a step does with slots

A step of a crowd concerns one request at most. It grants the request a slot, sends its report,
loses its slot, or leaves it with what it holds. `Moves` says what each of these does, and every
step is one of them while the far end attends to the connection.
-/

namespace AdmissionControl

open Wire

namespace Gate.Crowd

variable {σ κ : Type}

/-- A step of a crowd. -/
inductive Action where
  | come (request : Http.Request)
  | take (number : Nat)
  | send
  | receive
  | finish (number : Nat) (ending : HandlerEnd)
  | drop (number : Nat) (canReport : Bool)
  | advance (nanoseconds : Nat)

/-- The crowd after one step. -/
def act (plan : Plan) (transport : Transport σ κ) (crowd : Crowd σ κ) : Action → Crowd σ κ
  | .come request => crowd.come plan request
  | .take number => crowd.take plan transport number
  | .send => crowd.send transport
  | .receive => crowd.receive plan transport
  | .finish number ending => crowd.finish plan number ending
  | .drop number canReport => crowd.drop plan transport number canReport
  | .advance nanoseconds => crowd.advance nanoseconds

/-- The request that is granted a slot in a step. -/
def granted? (limiter : σ → Limiter) (crowd : Crowd σ κ) : Action → Option Nat
  | .send =>
      match crowd.calling with
      | some ⟨number, .ask _ _ _, .opened _⟩ =>
          if (limiter crowd.world).acquire.admitted then some number else none
      | _ => none
  | _ => none

/-- The request on which a report is sent in a step. -/
def reported? (crowd : Crowd σ κ) : Action → Option Nat
  | .send =>
      match crowd.calling with
      | some ⟨number, job, .opened _⟩ => if job.reports then some number else none
      | _ => none
  | _ => none

/-- The request that is dropped in a step with a slot which nothing will give back. That is a
request which holds one and is dropped in its call, while its report waits for the client, or in
its handler where nothing can run a report. -/
def lost? (crowd : Crowd σ κ) : Action → Option Nat
  | .drop number canReport =>
      match crowd.standing number with
      | some (.inCall call) =>
          if !call.job.isDetached && call.holdsSlot then some number else none
      | some (.atStage (.waiting job)) =>
          if !job.isDetached && job.holdsSlot then some number else none
      | some (.atStage (.handling passage)) =>
          if passage.holdsSlot && !canReport then some number else none
      | _ => none
  | _ => none

/-- What a step does with the slot and the report of a request, and to the number in flight. The
step concerns no other request. -/
inductive Moves (limiter : σ → Limiter) (before after : Crowd σ κ) :
    (granted reported lost : Option Nat) → Prop
  | keep (number : Nat)
      (others : before.Spares after number)
      (slot : after.holds number = before.holds number)
      (due : after.mayReport number = true → before.mayReport number = true)
      (same : (limiter after.world).inflight.toNat = (limiter before.world).inflight.toNat) :
      Moves limiter before after none none none
  | grant (number : Nat)
      (others : before.Spares after number)
      (free : before.holds number = false) (due : before.mayReport number = true)
      (slot : after.holds number = true)
      (taken : (limiter after.world).inflight.toNat = (limiter before.world).inflight.toNat + 1) :
      Moves limiter before after (some number) none none
  | report (number : Nat)
      (others : before.Spares after number)
      (due : before.mayReport number = true) (slot : after.holds number = false)
      (done : after.mayReport number = false)
      (given : (limiter after.world).inflight.toNat = (limiter before.world).inflight.toNat - 1) :
      Moves limiter before after none (some number) none
  | lose (number : Nat)
      (others : before.Spares after number)
      (held : before.holds number = true) (due : before.mayReport number = true)
      (slot : after.holds number = false)
      (done : after.mayReport number = false)
      (same : (limiter after.world).inflight.toNat = (limiter before.world).inflight.toNat) :
      Moves limiter before after none none (some number)

variable {plan : Plan} {transport : Transport σ κ} {attends : σ → Option κ → Prop}
  {limiter : σ → Limiter} {crowd : Crowd σ κ} {number : Nat}

section Moving

/-- A step that concerns no request. -/
theorem Moves.rest {after : Crowd σ κ} (backend : after.gate.backend = crowd.gate.backend)
    (calling : after.calling = crowd.calling) (requests : after.requests = crowd.requests) :
    Moves limiter crowd after none none none := by
  have same : ∀ number, after.standing number = crowd.standing number := by
    intro number
    unfold standing
    rw [calling, requests]
  refine .keep 0 (fun other _ => same other) ?_ ?_ ?_
  · rw [Crowd.holds, Crowd.holds, same]
  · rw [Crowd.mayReport, Crowd.mayReport, same]
    exact id
  · rw [world, world, backend]

/-- A step that leaves a request with no slot and no report to be made loses the slot it held. -/
theorem Moves.drop {after : Crowd σ κ} {held : Bool}
    (others : crowd.Spares after number)
    (holds : crowd.holds number = held) (due : held = true → crowd.mayReport number = true)
    (dropped : after.standing number = some (.atStage .dropped))
    (same : (limiter after.world).inflight.toNat = (limiter crowd.world).inflight.toNat) :
    Moves limiter crowd after none none (if held then some number else none) := by
  have none : after.holds number = false := holds_of_standing dropped
  have done : after.mayReport number = false := mayReport_of_standing dropped
  cases held with
  | true => exact .lose number others holds (due rfl) none done same
  | false =>
      refine .keep number others (none.trans holds.symm) ?_ same
      simp [done]

variable {old : Stage}

/-- Moving a request that is not calling from one stage to another. -/
theorem Sound.restage (sound : crowd.Sound attends) (found : crowd.requests[number]? = some old)
    (notCalling : old ≠ .calling) {gate : Gate (Backend.Shared σ κ)}
    (same : gate.backend = crowd.gate.backend) {stage : Stage} (goesOn : stage ≠ .calling) :
    let after := { crowd with gate, requests := crowd.requests.set number stage }
    after.Sound attends
      ∧ crowd.Spares after number
      ∧ crowd.standing number = some (.atStage old)
      ∧ after.standing number = some (.atStage stage) := by
  intro after
  have inBounds : number < crowd.requests.length := (List.getElem?_eq_some_iff.mp found).1
  have placed : after.requests[number]? = some stage := List.getElem?_set_self inBounds
  have soundAfter : after.Sound attends := by
    refine sound.congr same rfl fun other isCalling => ?_
    have different : number ≠ other := by
      rintro rfl
      exact notCalling (Option.some.inj (found.symm.trans isCalling))
    exact (List.getElem?_set_ne different).trans isCalling
  refine ⟨soundAfter, ?_, ?_, ?_⟩
  · intro other different
    exact standing_congr (List.getElem?_set_ne different.symm) rfl
  · rw [sound.standing_of_ne_calling (by simpa [found] using notCalling), found, Option.map_some]
  · rw [soundAfter.standing_of_ne_calling (by simpa [placed] using goesOn), placed,
      Option.map_some]

/-- A request that is not calling goes to a stage in which it holds what it held. -/
theorem restage_moves (sound : crowd.Sound attends) (found : crowd.requests[number]? = some old)
    (due : old.mayReport = true) {gate : Gate (Backend.Shared σ κ)}
    (same : gate.backend = crowd.gate.backend) (stage : Stage) (goesOn : stage ≠ .calling)
    (slot : stage.holdsSlot = old.holdsSlot) :
    let after := { crowd with gate, requests := crowd.requests.set number stage }
    after.Sound attends ∧ Moves limiter crowd after none none none := by
  intro after
  have notCalling : old ≠ .calling := by
    rintro rfl
    cases due
  obtain ⟨soundAfter, others, stood, stands⟩ := sound.restage found notCalling same goesOn
  refine ⟨soundAfter, .keep number others ?_ ?_ ?_⟩
  · rw [holds_of_standing stands, holds_of_standing stood]
    exact slot
  · rw [mayReport_of_standing stood]
    exact fun _ => due
  · rw [world, world, same]

/-- A request that is not calling is dropped, with the slot that it held. -/
theorem restage_drops (sound : crowd.Sound attends) (found : crowd.requests[number]? = some old)
    (due : old.mayReport = true) {gate : Gate (Backend.Shared σ κ)}
    (same : gate.backend = crowd.gate.backend) :
    let after := { crowd with gate, requests := crowd.requests.set number .dropped }
    after.Sound attends
      ∧ Moves limiter crowd after none none (if old.holdsSlot then some number else none) := by
  intro after
  have notCalling : old ≠ .calling := by
    rintro rfl
    cases due
  have goesOn : Stage.dropped ≠ .calling := by simp
  obtain ⟨soundAfter, others, stood, stands⟩ := sound.restage found notCalling same goesOn
  refine ⟨soundAfter, .drop others (holds_of_standing stood) ?_ stands ?_⟩
  · rw [mayReport_of_standing stood]
    exact fun _ => due
  · rw [world, world, same]

end Moving

section Steps

/-- A request that comes holds no slot. -/
theorem come_moves (sound : crowd.Sound attends) (request : Http.Request) :
    let after := crowd.come plan request
    after.Sound attends ∧ Moves limiter crowd after none none none := by
  intro after
  obtain ⟨gate, stage, eq, same, goesOn, free⟩ :
      ∃ (gate : Gate (Backend.Shared σ κ)) (stage : Stage),
        after = { crowd with gate, requests := crowd.requests ++ [stage] }
          ∧ gate.backend = crowd.gate.backend ∧ stage ≠ .calling ∧ stage.holdsSlot = false := by
    simp only [after, come]
    split
    · exact ⟨_, _, rfl, rfl, by simp, rfl⟩
    · exact ⟨_, _, rfl, backend_ask crowd.gate request, by simp, rfl⟩
  have absent : crowd.requests[crowd.requests.length]? = none := by simp
  have placed : after.requests[crowd.requests.length]? = some stage := by
    rw [eq]
    exact List.getElem?_concat_length
  have kept : ∀ other, other ≠ crowd.requests.length →
      after.requests[other]? = crowd.requests[other]? := by
    intro other different
    rw [eq]
    dsimp only
    rw [List.getElem?_append]
    split
    · rfl
    · rw [List.getElem?_eq_none (by simp; omega), List.getElem?_eq_none (by omega)]
  have soundAfter : after.Sound attends := by
    refine sound.congr (by rw [eq]; exact same) (by rw [eq]) fun number isCalling => ?_
    rw [kept number (Nat.ne_of_lt (List.getElem?_eq_some_iff.mp isCalling).1)]
    exact isCalling
  have stood : crowd.standing crowd.requests.length = none := by
    rw [sound.standing_of_ne_calling (by simp), absent, Option.map_none]
  have stands : after.standing crowd.requests.length = some (.atStage stage) := by
    rw [soundAfter.standing_of_ne_calling (by simpa [placed] using goesOn), placed,
      Option.map_some]
  refine ⟨soundAfter, .keep crowd.requests.length ?_ ?_ ?_ ?_⟩
  · intro other different
    exact standing_congr (kept other different) (by rw [eq])
  · rw [holds_of_standing stands, holds, stood]
    exact free
  · intro _
    rw [mayReport, stood, Option.all_none]
  · rw [eq, world, world]
    dsimp only
    rw [same]

/-- The connection that a call can have. -/
theorem Sound.ensureLink (sound : crowd.Sound attends) (meters : transport.Meters attends limiter)
    (free : crowd.calling = none) :
    ∃ connection opened,
      crowd.gate.backend.client.ensureLink transport crowd.world
          = some (⟨connection, []⟩, opened)
        ∧ attends opened (some connection) ∧ limiter opened = limiter crowd.world := by
  simp only [Sound, free] at sound
  obtain ⟨connection, linked, attended⟩ := sound
  cases connection with
  | none =>
      obtain ⟨connection, opened, connected, attended, same⟩ := meters.connect attended
      exact ⟨connection, opened, by simp [Client.ensureLink, linked, connected], attended, same⟩
  | some connection =>
      exact ⟨connection, crowd.world, by simp [Client.ensureLink, linked], attended, rfl⟩

/-- A request that takes the client holds what it held. -/
theorem take_moves (sound : crowd.Sound attends) (meters : transport.Meters attends limiter)
    (number : Nat) :
    let after := crowd.take plan transport number
    after.Sound attends ∧ Moves limiter crowd after none none none := by
  intro after
  by_cases waits : crowd.calling = none ∧ ∃ job, crowd.requests[number]? = some (.waiting job)
  · obtain ⟨free, job, found⟩ := waits
    obtain ⟨connection, opened, linked, attended, same⟩ := sound.ensureLink meters free
    let call : Call κ := ⟨number, job, .opened ⟨connection, []⟩⟩
    have eq : after = _ := take_of_some free found linked
    have inBounds : number < crowd.requests.length := (List.getElem?_eq_some_iff.mp found).1
    have stood : crowd.standing number = some (.atStage (.waiting job)) := by
      rw [standing_of_free free, found, Option.map_some]
    have calling : after.calling = some call := by rw [eq]
    have stands : after.standing number = some (.inCall call) := standing_of_calling calling
    refine ⟨?_, .keep number ?_ ?_ ?_ ?_⟩
    · rw [eq]
      exact ⟨List.getElem?_set_self inBounds, rfl, rfl, attended, by simp⟩
    · refine spares_of_calling (by simp [free]) (by simp [eq]) fun other different => ?_
      rw [eq]
      exact List.getElem?_set_ne different.symm
    · rw [holds_of_standing stands, holds_of_standing stood]
      rfl
    · rw [mayReport_of_standing stood]
      exact fun _ => rfl
    · rw [eq]
      exact congrArg (·.inflight.toNat) same
  · have eq : after = crowd := by
      simp only [after, take]
      split
      · next free found => exact absurd ⟨free, _, found⟩ waits
      · rfl
    rw [eq]
    exact ⟨sound, .rest rfl rfl rfl⟩

/-- A call that sends its request line waits for the reply from then on. -/
theorem Sound.send (sound : crowd.Sound attends) {job : Job} {link : Client.Link κ}
    (calling : crowd.calling = some ⟨number, job, .opened link⟩) {arrival : Arrival} {world : σ}
    (sent : transport.send crowd.world link.connection (Text.encode job.request.encode)
      = (arrival, world))
    (attended : attends world (some link.connection)) (answers : Answers arrival job) :
    let after := crowd.send transport
    after.Sound attends
      ∧ crowd.Spares after number
      ∧ after.standing number = some (.inCall ⟨number, job, .sent link arrival⟩)
      ∧ after.world = world := by
  intro after
  obtain ⟨stage, client, unread, _, _⟩ := sound.hasClient calling
  let call : Call κ := ⟨number, job, .sent link arrival⟩
  have eq : after = _ := send_of_opened calling
  rw [sent] at eq
  have stillCalling : after.calling = some call := by rw [eq]
  have requests : after.requests = crowd.requests := by rw [eq]
  have worldEq : after.world = world := by
    rw [eq]
    rfl
  have holds : after.HasClient attends call := by
    refine ⟨requests ▸ stage, by rw [eq]; exact client, unread, worldEq ▸ attended, ?_⟩
    rintro link arrival ⟨⟩
    exact answers
  refine ⟨?_, ?_, standing_of_calling stillCalling, worldEq⟩
  · rw [Sound, stillCalling]
    exact holds
  · refine spares_of_calling (by simp [calling]) (by simp [stillCalling, call]) ?_
    intro other _
    rw [requests]

/-- Asking for admission takes a slot if the limiter grants one. -/
theorem send_moves_of_ask (sound : crowd.Sound attends) (meters : transport.Meters attends limiter)
    {visitor : Visitor} {start : Nat} {sampled : Bool} {link : Client.Link κ}
    (calling : crowd.calling = some ⟨number, .ask visitor start sampled, .opened link⟩) :
    let after := crowd.send transport
    after.Sound attends
      ∧ Moves limiter crowd after
          (if (limiter crowd.world).acquire.admitted then some number else none) none none := by
  intro after
  obtain ⟨_, _, unread, attended, _⟩ := sound.hasClient calling
  obtain ⟨connection, bytes⟩ := link
  obtain rfl : bytes = [] := unread
  obtain ⟨world, sent, stillAttended, limiterEq⟩ := meters.ask visitor attended
  obtain ⟨soundAfter, others, stands, worldEq⟩ :=
    sound.send calling sent stillAttended ⟨_, rfl⟩
  have stood : crowd.standing number = _ := standing_of_calling calling
  have taken := Limiter.toNat_acquire_inflight_eq (limiter crowd.world)
  have holds : after.holds number = (limiter crowd.world).acquire.admitted :=
    (holds_of_standing stands).trans (Call.holdsSlot_of_sent number visitor start sampled _ _)
  rw [← limiterEq, ← worldEq] at taken
  refine ⟨soundAfter, ?_⟩
  cases admitted : (limiter crowd.world).acquire.admitted with
  | true =>
      rw [admitted] at holds taken
      exact .grant number others (holds_of_standing stood) (mayReport_of_standing stood) holds taken
  | false =>
      rw [admitted] at holds taken
      refine .keep number others ?_ ?_ taken
      · rw [holds, holds_of_standing stood]
        rfl
      · rw [mayReport_of_standing stood]
        exact fun _ => rfl

/-- Reporting gives a slot back. -/
theorem send_moves_of_reports (sound : crowd.Sound attends)
    (meters : transport.Meters attends limiter) {job : Job} (reports : job.reports = true)
    {link : Client.Link κ} (calling : crowd.calling = some ⟨number, job, .opened link⟩) :
    let after := crowd.send transport
    after.Sound attends ∧ Moves limiter crowd after none (some number) none := by
  intro after
  obtain ⟨_, _, _, attended, _⟩ := sound.hasClient calling
  obtain ⟨completion, request⟩ := Job.exists_completion reports
  obtain ⟨world, sent, stillAttended, inflightEq⟩ := meters.report completion attended
  rw [← request] at sent
  obtain ⟨soundAfter, others, stands, worldEq⟩ :=
    sound.send calling sent stillAttended ((answers_of_reports reports _).mpr rfl)
  have stood : crowd.standing number = _ := standing_of_calling calling
  refine ⟨soundAfter, .report number others (mayReport_of_standing stood) ?_ ?_ ?_⟩
  · exact (holds_of_standing stands).trans (Call.holdsSlot_of_reports reports ..)
  · exact (mayReport_of_standing stands).trans (Call.mayReport_of_reports reports ..)
  · rw [worldEq, inflightEq, Limiter.toNat_release_inflight]

/-- Sending the request line asks the limiter for a slot, or gives one back. -/
theorem send_moves (sound : crowd.Sound attends) (meters : transport.Meters attends limiter) :
    let after := crowd.send transport
    after.Sound attends
      ∧ Moves limiter crowd after (crowd.granted? limiter .send) (crowd.reported? .send) none := by
  intro after
  cases calling : crowd.calling with
  | none =>
      have eq : after = crowd := by simp only [after, send, calling]
      simp only [granted?, reported?, calling, eq]
      exact ⟨sound, .rest rfl rfl rfl⟩
  | some call =>
      obtain ⟨number, job, link | ⟨link, arrival⟩⟩ := call
      · simp only [granted?, reported?, calling]
        cases job with
        | ask visitor start sampled => exact send_moves_of_ask sound meters calling
        | report verdict ending completion => exact send_moves_of_reports sound meters rfl calling
        | release verdict completion => exact send_moves_of_reports sound meters rfl calling
      · have eq : after = crowd := by simp only [after, send, calling]
        simp only [granted?, reported?, calling, eq]
        exact ⟨sound, .rest rfl rfl rfl⟩

/-- A call that is over leaves its request at another stage, and the client with the connection. -/
theorem Sound.settle (sound : crowd.Sound attends) {call : Call κ}
    (calling : crowd.calling = some call) {gate : Gate (Backend.Shared σ κ)}
    (backend : gate.backend = ⟨⟨some call.pending.link⟩, crowd.world⟩) {stage : Stage} :
    let after : Crowd σ κ :=
      { gate, requests := crowd.requests.set call.number stage, calling := none }
    stage.holdsSlot = call.holdsSlot → (stage.mayReport = true → call.mayReport = true) →
    after.Sound attends ∧ Moves limiter crowd after none none none := by
  intro after slot due
  obtain ⟨isCalling, _, unread, attended, _⟩ := sound.hasClient calling
  have inBounds : call.number < crowd.requests.length := (List.getElem?_eq_some_iff.mp isCalling).1
  have stood : crowd.standing call.number = some (.inCall call) := standing_of_calling calling
  have stands : after.standing call.number = some (.atStage stage) := by
    rw [standing_of_free rfl, List.getElem?_set_self inBounds, Option.map_some]
  refine ⟨?_, .keep call.number ?_ ?_ ?_ ?_⟩
  · refine ⟨some call.pending.link.connection, ?_, ?_⟩
    · rw [backend, Option.map_some, ← unread]
    · rw [world, backend]
      exact attended
  · refine spares_of_calling (by simp [calling]) (by simp [after]) fun other different => ?_
    exact List.getElem?_set_ne different.symm
  · rw [holds_of_standing stands, holds_of_standing stood]
    exact slot
  · rw [mayReport_of_standing stands, mayReport_of_standing stood]
    exact due
  · simp only [world, after, backend]

/-- A request holds a slot after its verdict as the verdict says. -/
theorem holdsSlot_of_judge (gate : Gate (Backend.Shared σ κ)) (visitor : Visitor) (start : Nat)
    (sampled : Bool) (decision : Limiter.Decision) :
    (Stage.ofEntry (gate.judge plan visitor start sampled (.ofDecision decision)).1).holdsSlot
      = decision.admitted := by
  have judged := judge_entry plan gate visitor start sampled (.ofDecision decision)
  cases entry : (gate.judge plan visitor start sampled (.ofDecision decision)).1 with
  | shed response =>
      rw [entry] at judged
      exact judged.symm
  | passed passage =>
      simp only [entry] at judged
      simp [Stage.ofEntry, Stage.holdsSlot, Passage.holdsSlot, judged, Verdict.ofDecision]

/-- A call that asked reads its reply and leaves its request with the slot that the reply grants. -/
theorem receive_moves_of_ask (sound : crowd.Sound attends) {visitor : Visitor} {start : Nat}
    {sampled : Bool} {link : Client.Link κ} {arrival : Arrival}
    (calling : crowd.calling = some ⟨number, .ask visitor start sampled, .sent link arrival⟩) :
    let after := crowd.receive plan transport
    after.Sound attends ∧ Moves limiter crowd after none none none := by
  intro after
  obtain ⟨_, _, unread, _, answered⟩ := sound.hasClient calling
  obtain ⟨connection, bytes⟩ := link
  obtain rfl : bytes = [] := unread
  obtain ⟨decision, rfl⟩ := answered _ _ rfl
  have isLine := Reply.isLine_ofDecision decision
  have settled : Client.settle transport ⟨connection, []⟩ crowd.world _ _ = _ :=
    Client.settle_of_reply isLine (Client.readVerdict_ofDecision decision)
  have eq : after = _ :=
    (receive_of_sent calling (Client.isAnswered_of_isLine isLine)).trans (goOn_ask ..)
  simp only [settled] at eq
  rw [eq]
  refine sound.settle calling (backend_judge ..) ?_ fun _ => rfl
  exact (holdsSlot_of_judge ..).trans (Call.holdsSlot_of_sent ..).symm

/-- A request is over when its report is delivered, whatever came of it. -/
theorem goOn_of_reports (plan : Plan) (crowd : Crowd σ κ) (number : Nat) {job : Job}
    (reports : job.reports = true)
    (settles : ∀ {α : Type}, (List Char → Except Fault α) → Client.After σ κ α) :
    let after := settles Client.readReceipt
    ∃ (gate : Gate (Backend.Shared σ κ)) (stage : Stage),
      gate.backend = ⟨after.client, after.world⟩ ∧ stage.isOver = true
        ∧ crowd.goOn plan number job settles
          = { gate, requests := crowd.requests.set number stage, calling := none } := by
  cases job with
  | ask visitor start sampled => cases reports
  | report verdict ending completion =>
      exact ⟨_, _, (backend_depart ..).trans (backend_warnIf ..), rfl, goOn_report ..⟩
  | release verdict completion => exact ⟨_, .dropped, rfl, rfl, goOn_release ..⟩

/-- A call that reported reads its reply, and its request is over. -/
theorem receive_moves_of_reports (sound : crowd.Sound attends) {job : Job}
    (reports : job.reports = true) {link : Client.Link κ} {arrival : Arrival}
    (calling : crowd.calling = some ⟨number, job, .sent link arrival⟩) :
    let after := crowd.receive plan transport
    after.Sound attends ∧ Moves limiter crowd after none none none := by
  intro after
  obtain ⟨_, _, unread, _, answered⟩ := sound.hasClient calling
  obtain ⟨connection, bytes⟩ := link
  obtain rfl : bytes = [] := unread
  obtain rfl : arrival = _ := (answers_of_reports reports _).mp (answered _ _ rfl)
  have settled : Client.settle transport ⟨connection, []⟩ crowd.world _ Client.readReceipt = _ :=
    Client.settle_of_reply Reply.isLine_acknowledgement rfl
  have received : after = _ :=
    receive_of_sent calling (Client.isAnswered_of_isLine Reply.isLine_acknowledgement)
  obtain ⟨gate, stage, backend, finished, eq⟩ :=
    goOn_of_reports plan crowd number reports fun {_} accept =>
      Client.settle transport ⟨connection, []⟩ crowd.world
        (.received (Text.encode Reply.acknowledgement) false) accept
  rw [settled] at backend
  rw [received, eq]
  refine sound.settle calling backend ?_ ?_
  · rw [Stage.holdsSlot_of_isOver finished, Call.holdsSlot_of_reports reports]
  · simp [Stage.mayReport_of_isOver finished]

/-- A call that reads its reply leaves its request with the slot that it held. -/
theorem receive_moves (sound : crowd.Sound attends) :
    let after := crowd.receive plan transport
    after.Sound attends ∧ Moves limiter crowd after none none none := by
  intro after
  cases calling : crowd.calling with
  | none =>
      have eq : after = crowd := by simp only [after, receive, calling]
      rw [eq]
      exact ⟨sound, .rest rfl rfl rfl⟩
  | some call =>
      obtain ⟨number, job, link | ⟨link, arrival⟩⟩ := call
      · have eq : after = crowd := by simp only [after, receive, calling]
        rw [eq]
        exact ⟨sound, .rest rfl rfl rfl⟩
      · cases job with
        | ask visitor start sampled => exact receive_moves_of_ask sound calling
        | report verdict ending completion => exact receive_moves_of_reports sound rfl calling
        | release verdict completion => exact receive_moves_of_reports sound rfl calling

/-- The handler of a request ends. -/
theorem finish_moves (sound : crowd.Sound attends) (number : Nat) (ending : HandlerEnd) :
    let after := crowd.finish plan number ending
    after.Sound attends ∧ Moves limiter crowd after none none none := by
  intro after
  cases found : crowd.requests[number]? with
  | none =>
      have eq : after = crowd := by simp only [after, finish, found]
      rw [eq]
      exact ⟨sound, .rest rfl rfl rfl⟩
  | some stage =>
      cases stage with
      | handling passage =>
          obtain ⟨start, sampled, verdict⟩ := passage
          simp only [after, finish, found, finishing]
          cases verdict with
          | none => exact restage_moves sound found rfl rfl (.ended ending) (by simp) rfl
          | some verdict =>
              dsimp only
              split
              · exact restage_moves sound found rfl (backend_record _ _)
                  (.waiting (.report verdict ending _)) (by simp) rfl
              · next uncontacted =>
                refine restage_moves sound found rfl (backend_depart _ _ _) (.ended _) (by simp) ?_
                simp [Stage.holdsSlot, Passage.holdsSlot, uncontacted]
      | _ =>
          have eq : after = crowd := by simp only [after, finish, found]
          rw [eq]
          exact ⟨sound, .rest rfl rfl rfl⟩

/-- A request that is dropped in its handler keeps its slot for a report of its own, or loses it. -/
theorem dropHandling_moves (sound : crowd.Sound attends) {passage : Passage}
    (found : crowd.requests[number]? = some (.handling passage)) (canReport : Bool) :
    let after := crowd.dropHandling plan number passage canReport
    after.Sound attends
      ∧ Moves limiter crowd after none none
          (if passage.holdsSlot && !canReport then some number else none) := by
  intro after
  have slot := passage.holdsSlot_eq
  simp only [after, dropHandling, abandoning]
  cases answered : passage.verdict.filter Verdict.contacted with
  | none =>
      -- Nothing was granted, so there is nothing to lose either.
      rw [answered, Option.any_none] at slot
      have free : (Stage.handling passage).holdsSlot = false := slot
      rw [slot, Bool.false_and, ← free]
      exact restage_drops sound found rfl rfl
  | some verdict =>
      have contacted : verdict.contacted = true := (Option.filter_eq_some_iff.mp answered).2
      rw [answered, Option.any_some] at slot
      cases canReport with
      | true =>
          rw [Bool.not_true, Bool.and_false]
          refine restage_moves sound found rfl (backend_record _ _) (.waiting (.release verdict _))
            (by simp) ?_
          simp [Stage.holdsSlot, Job.holdsSlot, Verdict.grants, contacted, slot]
      | false =>
          rw [Bool.not_false, Bool.and_true]
          exact restage_drops sound found rfl (backend_warn _ _)

/-- A request that is dropped in its call takes the connection with it. -/
theorem dropCalling_moves (sound : crowd.Sound attends) (meters : transport.Meters attends limiter)
    {call : Call κ} (calling : crowd.calling = some call) :
    let after := ({ crowd with calling := none }.withShared crowd.gate.backend.client
      (transport.hangUp crowd.world call.pending.link.connection)).put call.number .dropped
    after.Sound attends
      ∧ Moves limiter crowd after none none
          (if call.holdsSlot then some call.number else none) := by
  intro after
  obtain ⟨isCalling, client, _, attended, _⟩ := sound.hasClient calling
  obtain ⟨leftAlone, same⟩ := meters.hangUp attended
  have inBounds : call.number < crowd.requests.length := (List.getElem?_eq_some_iff.mp isCalling).1
  have free : after.calling = none := rfl
  have requests : after.requests = crowd.requests.set call.number .dropped := rfl
  have stood : crowd.standing call.number = some (.inCall call) := standing_of_calling calling
  refine ⟨⟨none, client, leftAlone⟩, .drop ?_ (holds_of_standing stood) ?_ ?_ ?_⟩
  · refine spares_of_calling (by simp [calling]) (by simp [free]) fun other different => ?_
    rw [requests, List.getElem?_set_ne different.symm]
  · rw [mayReport_of_standing stood]
    exact Call.mayReport_of_holdsSlot
  · rw [standing_of_free free, requests, List.getElem?_set_self inBounds, Option.map_some]
  · exact congrArg (·.inflight.toNat) same

/-- A request that is dropped loses the slot it holds, if nothing is left to give it back. -/
theorem drop_moves (sound : crowd.Sound attends) (meters : transport.Meters attends limiter)
    (number : Nat) (canReport : Bool) :
    let after := crowd.drop plan transport number canReport
    after.Sound attends
      ∧ Moves limiter crowd after none none (crowd.lost? (.drop number canReport)) := by
  intro after
  cases isCalling : crowd.calling.filter (·.number = number) with
  | some call =>
      obtain ⟨calling, sameNumber⟩ := Option.filter_eq_some_iff.mp isCalling
      obtain rfl : call.number = number := by simpa using sameNumber
      simp only [after, drop, lost?, isCalling, standing_of_calling calling]
      cases call.job.isDetached with
      | true => exact ⟨sound, .rest rfl rfl rfl⟩
      | false => exact dropCalling_moves sound meters calling
  | none =>
      cases found : crowd.requests[number]? with
      | none =>
          have eq : after = crowd := by simp only [after, drop, isCalling, found]
          simp only [lost?, standing, isCalling, found, eq]
          exact ⟨sound, .rest rfl rfl rfl⟩
      | some stage =>
          simp only [after, drop, lost?, standing, isCalling, found, Option.map_some]
          cases stage with
          | waiting job =>
              dsimp only
              cases job.isDetached with
              | true => exact ⟨sound, .rest rfl rfl rfl⟩
              | false => exact restage_drops sound found rfl rfl
          | handling passage => exact dropHandling_moves sound found canReport
          | _ => exact ⟨sound, .rest rfl rfl rfl⟩

/-- Every step moves slots as it says, and keeps the crowd sound. -/
theorem act_moves (plan : Plan) (sound : crowd.Sound attends)
    (meters : transport.Meters attends limiter) (action : Action) :
    let after := crowd.act plan transport action
    after.Sound attends
      ∧ Moves limiter crowd after (crowd.granted? limiter action) (crowd.reported? action)
          (crowd.lost? action) := by
  cases action with
  | come request => exact come_moves sound request
  | take number => exact take_moves sound meters number
  | send => exact send_moves sound meters
  | receive => exact receive_moves sound
  | finish number ending => exact finish_moves sound number ending
  | drop number canReport => exact drop_moves sound meters number canReport
  | advance nanoseconds => exact ⟨sound.congr rfl rfl fun _ => id, .rest rfl rfl rfl⟩

end Steps

/-- A report that waits for the client is delivered when it has the client: it gives a slot back,
and its request is over. -/
theorem callThrough_of_reports (plan : Plan) (sound : crowd.Sound attends)
    (meters : transport.Meters attends limiter) (free : crowd.calling = none) {job : Job}
    (waits : crowd.requests[number]? = some (.waiting job)) (reports : job.reports = true) :
    let after := crowd.callThrough plan transport number
    after.calling = none
      ∧ (∃ stage, after.requests[number]? = some stage ∧ stage.isOver = true)
      ∧ (limiter after.world).inflight.toNat = (limiter crowd.world).inflight.toNat - 1 := by
  intro after
  have inBounds : number < crowd.requests.length := (List.getElem?_eq_some_iff.mp waits).1
  obtain ⟨completion, request⟩ := Job.exists_completion reports
  obtain ⟨connection, opened, linked, attended, same⟩ := sound.ensureLink meters free
  obtain ⟨world, sent, _, inflightEq⟩ := meters.report completion attended
  rw [← request] at sent
  have answered : crowd.IsAnswered transport job.request := by
    intro link world linkedAgain
    obtain ⟨rfl, rfl⟩ := Prod.mk.inj (Option.some.inj (linked.symm.trans linkedAgain))
    rw [sent]
    exact Client.isAnswered_of_isLine Reply.isLine_acknowledgement
  have called : crowd.gate.backend.client.call transport crowd.world job.request Client.readReceipt
      = ⟨.returned true, ⟨some ⟨connection, []⟩⟩, world⟩ := by
    simp only [Client.call, linked]
    exact Client.exchange_of_reply sent Reply.isLine_acknowledgement rfl
  obtain ⟨gate, stage, backend, finished, eq⟩ :=
    goOn_of_reports plan crowd number reports fun {_} accept =>
      crowd.gate.backend.client.call transport crowd.world job.request accept
  rw [called] at backend
  have through : after = _ := (callThrough_eq free waits answered).trans eq
  rw [through]
  refine ⟨rfl, ⟨stage, List.getElem?_set_self inBounds, finished⟩, ?_⟩
  rw [Crowd.world, backend, inflightEq, Limiter.toNat_release_inflight, same]

end Gate.Crowd

end AdmissionControl
