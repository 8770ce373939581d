import AdmissionControl.Gate.Crowd
import AdmissionControl.Proofs.Client.Replies
import AdmissionControl.Proofs.Gate.Slots

/-!
# Where requests stand

A request holds a slot from the moment at which the limiter grants it, while the reply is still on
its way, until its report is sent. Where it stands says whether it holds one and whether its report
may still be sent. At most one request is in a call, and that one has the client and the connection
to itself.
-/

namespace AdmissionControl

open Wire

/-- Whether a verdict is a slot that the limiter granted. -/
def Verdict.grants (verdict : Verdict) : Bool := verdict.contacted && verdict.admitted

namespace Gate

/-- Whether the slot of a request is still to be given back when its job has not begun. -/
def Job.holdsSlot : Job → Bool
  | .ask _ _ _ => false
  | .report verdict _ _ => verdict.grants
  | .release verdict _ => verdict.grants

/-- Whether a job is to report on a request. -/
def Job.reports : Job → Bool
  | .ask _ _ _ => false
  | _ => true

theorem Job.exists_completion {job : Job} (reports : job.reports = true) :
    ∃ completion : Completion, job.request = completion.request := by
  cases job with
  | ask visitor start sampled => cases reports
  | report verdict ending completion => exact ⟨completion, rfl⟩
  | release verdict completion => exact ⟨completion, rfl⟩

theorem Passage.holdsSlot_eq (passage : Passage) :
    passage.holdsSlot = (passage.verdict.filter Verdict.contacted).any Verdict.admitted := by
  rw [holdsSlot, Option.any_filter]

namespace Stage

def holdsSlot : Stage → Bool
  | .waiting job => job.holdsSlot
  | .handling passage => passage.holdsSlot
  | _ => false

/-- Whether the report on the request may still be sent. -/
def mayReport : Stage → Bool
  | .waiting _ => true
  | .handling _ => true
  | _ => false

/-- Whether the request is over. -/
def isOver : Stage → Bool
  | .shed _ => true
  | .ended _ => true
  | .dropped => true
  | _ => false

variable {stage : Stage}

theorem holdsSlot_of_isOver (finished : stage.isOver = true) : stage.holdsSlot = false := by
  cases stage with
  | waiting job => cases finished
  | handling passage => cases finished
  | _ => rfl

theorem mayReport_of_isOver (finished : stage.isOver = true) : stage.mayReport = false := by
  cases stage with
  | waiting job => cases finished
  | handling passage => cases finished
  | _ => rfl

end Stage

namespace Call

variable {κ : Type}

/-- The verdict that a call for admission is going to read. -/
def verdict? (link : Client.Link κ) : Arrival → Option Verdict
  | .refused => none
  | .received bytes closed =>
      match (Client.readLine (link.unread ++ bytes) closed).judge Client.readVerdict with
      | .returned verdict => some verdict
      | _ => none

/-- Whether the request holds a slot during its call: it does so until it has sent a report, and
from when its attempt was granted, before it knows. -/
def holdsSlot (call : Call κ) : Bool :=
  match call.pending, call.job with
  | .opened _, job => job.holdsSlot
  | .sent link arrival, .ask _ _ _ => (verdict? link arrival).any Verdict.grants
  | .sent _ _, _ => false

/-- Whether the report on the request may still be sent. -/
def mayReport (call : Call κ) : Bool :=
  match call.pending with
  | .opened _ => true
  | .sent _ _ => !call.job.reports

/-- The reply that grants or rejects an attempt is read as what it says. -/
theorem verdict?_ofDecision (connection : κ) (decision : Limiter.Decision) :
    verdict? ⟨connection, []⟩ (.received (Text.encode (Reply.ofDecision decision)) false)
      = some (.ofDecision decision) := by
  obtain ⟨bytes, eq, noFeed, _⟩ := (Reply.isLine_ofDecision decision).exists_bytes
  have isText : Client.lineText? (bytes ++ [Turn.lineFeed])
      = some (Text.trimEnd (Reply.ofDecision decision)) := by
    change Client.lineText? (bytes ++ [10]) = _
    rw [← eq, Client.lineText?, Text.decode?_encode]
    rfl
  have read : Client.readLine (Text.encode (Reply.ofDecision decision)) false
      = .returned (Text.trimEnd (Reply.ofDecision decision)) := by
    rw [eq]
    exact Client.readLine_eq_returned_iff.mpr (.line noFeed isText)
  simp only [verdict?, List.nil_append, read, Client.Outcome.judge, Client.readVerdict_ofDecision]

/-- A request whose attempt was granted holds its slot before it has read so. -/
theorem holdsSlot_of_sent (number : Nat) (visitor : Visitor) (start : Nat) (sampled : Bool)
    (connection : κ) (decision : Limiter.Decision) :
    holdsSlot ⟨number, .ask visitor start sampled,
        .sent ⟨connection, []⟩ (.received (Text.encode (Reply.ofDecision decision)) false)⟩
      = decision.admitted := by
  simp only [holdsSlot, verdict?_ofDecision, Option.any_some]
  rfl

section Reporting

variable {job : Job} (reports : job.reports = true) (number : Nat) (link : Client.Link κ)
  (arrival : Arrival)
include reports

/-- A request that has sent its report holds no slot. -/
theorem holdsSlot_of_reports : holdsSlot ⟨number, job, .sent link arrival⟩ = false := by
  cases job with
  | ask visitor start sampled => cases reports
  | _ => rfl

theorem mayReport_of_reports : mayReport ⟨number, job, .sent link arrival⟩ = false := by
  rw [mayReport, reports, Bool.not_true]

end Reporting

/-- A call that holds a slot may still report. -/
theorem mayReport_of_holdsSlot {call : Call κ} (holds : call.holdsSlot = true) :
    call.mayReport = true := by
  obtain ⟨number, job, pending⟩ := call
  cases pending with
  | opened link => rfl
  | sent link arrival =>
      cases job with
      | ask visitor start sampled => rfl
      | _ => simp [holdsSlot] at holds

end Call

/-- Where a request stands: at a stage, or in its call. -/
inductive Standing (κ : Type) where
  | atStage (stage : Stage)
  | inCall (call : Call κ)

namespace Standing

variable {κ : Type}

def holdsSlot : Standing κ → Bool
  | .atStage stage => stage.holdsSlot
  | .inCall call => call.holdsSlot

def mayReport : Standing κ → Bool
  | .atStage stage => stage.mayReport
  | .inCall call => call.mayReport

end Standing

namespace Crowd

variable {σ κ : Type}

/-- Where the request with a number stands, if one came. -/
def standing (crowd : Crowd σ κ) (number : Nat) : Option (Standing κ) :=
  match crowd.calling.filter (·.number = number) with
  | some call => some (.inCall call)
  | none => crowd.requests[number]?.map .atStage

/-- Whether a request holds a slot. -/
def holds (crowd : Crowd σ κ) (number : Nat) : Bool :=
  (crowd.standing number).any Standing.holdsSlot

/-- Whether the report on a request may still be sent. It may be that the request has not come. -/
def mayReport (crowd : Crowd σ κ) (number : Nat) : Bool :=
  (crowd.standing number).all Standing.mayReport

/-- All requests but one stand where they stood. -/
def Spares (before after : Crowd σ κ) (number : Nat) : Prop :=
  ∀ other, other ≠ number → after.standing other = before.standing other

/-- What a call for a job finds that has sent its request line. -/
def Answers (arrival : Arrival) : Job → Prop
  | .ask _ _ _ =>
      ∃ decision, arrival = .received (Text.encode (Reply.ofDecision decision)) false
  | _ => arrival = .received (Text.encode Reply.acknowledgement) false

theorem answers_of_reports {job : Job} (reports : job.reports = true) (arrival : Arrival) :
    Answers arrival job ↔ arrival = .received (Text.encode Reply.acknowledgement) false := by
  cases job with
  | ask visitor start sampled => cases reports
  | _ => exact Iff.rfl

/-- A call has the client and the one connection to itself, and finds its reply. -/
structure HasClient (attends : σ → Option κ → Prop) (crowd : Crowd σ κ) (call : Call κ) : Prop where
  stage : crowd.requests[call.number]? = some .calling
  client : crowd.gate.backend.client.link = none
  unread : call.pending.link.unread = []
  attended : attends crowd.world (some call.pending.link.connection)
  answered : ∀ link arrival, call.pending = .sent link arrival → Answers arrival call.job

/-- The far end attends to the connection of the client, or to that of the call which has it. -/
def Sound (attends : σ → Option κ → Prop) (crowd : Crowd σ κ) : Prop :=
  match crowd.calling with
  | none => ∃ connection : Option κ,
      crowd.gate.backend.client.link = connection.map (⟨·, []⟩) ∧ attends crowd.world connection
  | some call => crowd.HasClient attends call

variable {attends : σ → Option κ → Prop} {crowd : Crowd σ κ} {number : Nat}

section Standing

/-- Where a request stands depends on its stage and its call alone. -/
theorem standing_congr {after : Crowd σ κ} {other : Nat}
    (requests : after.requests[other]? = crowd.requests[other]?)
    (calling : after.calling.filter (·.number = other) = crowd.calling.filter (·.number = other)) :
    after.standing other = crowd.standing other := by
  unfold standing
  rw [requests, calling]

theorem filter_calling_of_ne {calling : Option (Call κ)}
    (concerns : ∀ call ∈ calling, call.number = number) {other : Nat} (different : other ≠ number) :
    calling.filter (·.number = other) = none := by
  rw [Option.filter_eq_none_iff]
  intro call isCalling
  simpa [concerns call isCalling] using different.symm

/-- A step of a call concerns the request which has it. -/
theorem spares_of_calling {after : Crowd σ κ} (before : ∀ call ∈ crowd.calling, call.number = number)
    (calling : ∀ call ∈ after.calling, call.number = number)
    (requests : ∀ other, other ≠ number → after.requests[other]? = crowd.requests[other]?) :
    crowd.Spares after number := by
  intro other different
  refine standing_congr (requests other different) ?_
  rw [filter_calling_of_ne before different, filter_calling_of_ne calling different]

theorem standing_of_calling {call : Call κ} (calling : crowd.calling = some call) :
    crowd.standing call.number = some (.inCall call) := by
  have isCalling : crowd.calling.filter (·.number = call.number) = some call := by
    simp [calling]
  rw [standing, isCalling]

theorem standing_of_free (free : crowd.calling = none) (number : Nat) :
    crowd.standing number = crowd.requests[number]?.map .atStage := by
  rw [standing, free, Option.filter_none]

theorem holds_of_standing {standing : Standing κ} (stands : crowd.standing number = some standing) :
    crowd.holds number = standing.holdsSlot := by
  rw [holds, stands, Option.any_some]

theorem mayReport_of_standing {standing : Standing κ}
    (stands : crowd.standing number = some standing) :
    crowd.mayReport number = standing.mayReport := by
  rw [mayReport, stands, Option.all_some]

end Standing

section Soundness

theorem Sound.hasClient {call : Call κ} (sound : crowd.Sound attends)
    (calling : crowd.calling = some call) : crowd.HasClient attends call := by
  simpa only [Sound, calling] using sound

/-- What leaves the backend and the call alone. -/
theorem Sound.congr {after : Crowd σ κ} (sound : crowd.Sound attends)
    (backend : after.gate.backend = crowd.gate.backend) (calling : after.calling = crowd.calling)
    (requests : ∀ number : Nat, crowd.requests[number]? = some Stage.calling →
      after.requests[number]? = some Stage.calling) : after.Sound attends := by
  unfold Sound at sound ⊢
  rw [calling]
  cases isCalling : crowd.calling with
  | none =>
      simp only [isCalling] at sound
      simp only [world, backend]
      exact sound
  | some call =>
      simp only [isCalling] at sound
      obtain ⟨stage, client, unread, attended, answered⟩ := sound
      refine ⟨requests _ stage, by rw [backend]; exact client, unread, ?_, answered⟩
      rw [world, backend]
      exact attended

/-- A request that is at another stage than in a call is in none. -/
theorem Sound.standing_of_ne_calling (sound : crowd.Sound attends)
    (notCalling : crowd.requests[number]? ≠ some .calling) :
    crowd.standing number = crowd.requests[number]?.map .atStage := by
  cases calling : crowd.calling with
  | none => exact standing_of_free calling number
  | some call =>
      have different : number ≠ call.number := by
        rintro rfl
        exact notCalling (sound.hasClient calling).stage
      rw [standing, calling, filter_calling_of_ne (by simp) different]

end Soundness

end Crowd

end Gate

end AdmissionControl
