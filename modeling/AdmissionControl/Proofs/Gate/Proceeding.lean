import AdmissionControl.Gate.Lobby
import AdmissionControl.Proofs.Gate.Metering

/-!
# How a request proceeds at a gate

What happens to a request moves it on, and the gate may start its handler and report on it.
`Proceeds` says once what each incident does to a request at each stage; whatever a backend does, it
is one of these.
-/

namespace AdmissionControl

open Wire

namespace Gate

variable {σ : Type} {plan : Plan}

section Log

/-- What a gate did between two states: it started handlers so often, and it reported these
completions. -/
def Did (before after : Gate σ) (starts : Nat) (reports : List Completion) : Prop :=
  ∃ events, after.log = before.log ++ events ∧ events.count .started = starts
    ∧ events.filterMap Event.completion? = reports

theorem Did.refl (gate : Gate σ) : gate.Did gate 0 [] := ⟨[], by simp, rfl, rfl⟩

theorem Did.trans {before middle after : Gate σ} {starts more : Nat}
    {reports further : List Completion} (first : before.Did middle starts reports)
    (second : middle.Did after more further) :
    before.Did after (starts + more) (reports ++ further) := by
  obtain ⟨events, logged, started, reported⟩ := first
  obtain ⟨later, loggedLater, startedLater, reportedLater⟩ := second
  refine ⟨events ++ later, ?_, ?_, ?_⟩
  · rw [loggedLater, logged, List.append_assoc]
  · rw [List.count_append, started, startedLater]
  · rw [List.filterMap_append, reported, reportedLater]

theorem did_asked (gate : Gate σ) (visitor : Visitor) :
    gate.Did (gate.record (.asked visitor)) 0 [] := ⟨[.asked visitor], rfl, rfl, rfl⟩

theorem did_started (gate : Gate σ) : gate.Did (gate.record .started) 1 [] :=
  ⟨[.started], rfl, rfl, rfl⟩

theorem did_reported (gate : Gate σ) (completion : Completion) :
    gate.Did (gate.record (.reported completion)) 0 [completion] :=
  ⟨[.reported completion], rfl, rfl, rfl⟩

theorem did_warn (plan : Plan) (gate : Gate σ) (warning : Warning) :
    gate.Did (gate.warn plan warning) 0 [] := by
  have warned : gate.Did (gate.record (.warned warning)) 0 [] :=
    ⟨[.warned warning], rfl, rfl, rfl⟩
  unfold warn
  dsimp only
  split
  · exact warned
  · split
    · exact warned
    · exact .refl gate

theorem did_warnIf (plan : Plan) (gate : Gate σ) (cause : Bool) (warning : Warning) :
    gate.Did (gate.warnIf plan cause warning) 0 [] := by
  cases cause with
  | true => exact did_warn plan gate warning
  | false => exact .refl gate

theorem did_ask (plan : Plan) (gate : Gate σ) (request : Http.Request) :
    gate.Did (gate.ask plan request).2 0 [] := by
  have classified : gate.Did (gate.classify plan request).2 0 [] := by
    unfold classify
    split
    · exact .refl gate
    · exact did_warn plan gate _
  exact classified.trans (did_asked _ _)

theorem did_depart (plan : Plan) (gate : Gate σ) (verdict : Verdict) (ending : HandlerEnd) :
    gate.Did (gate.depart plan verdict ending).2 0 [] := by
  cases ending with
  | responded response => exact .refl gate
  | panicked => exact did_warn plan gate _

end Log

/-- Who a request is taken to come from: one that cannot be classified counts as anonymous. -/
def Plan.visitor (plan : Plan) (request : Http.Request) : Visitor :=
  match plan.classifier request with
  | .ok visitor => visitor
  | .error _ => .anonymous

theorem ask_visitor (gate : Gate σ) (request : Http.Request) :
    (gate.ask plan request).1 = plan.visitor request := by
  unfold ask classify Plan.visitor
  cases plan.classifier request <;> rfl

/-- Whether a request goes on to its handler with a verdict. -/
def goesOn (visitor : Visitor) (verdict : Verdict) : Prop :=
  visitor = .authenticated ∨ verdict.admitted = true

instance (visitor : Visitor) (verdict : Verdict) : Decidable (goesOn visitor verdict) :=
  inferInstanceAs (Decidable (_ ∨ _))

/-- How a request proceeds, how often its handler is started by that, and what is reported. -/
inductive Proceeds (plan : Plan) (gate : Gate σ) :
    Stage → Incident → Stage → Nat → List Completion → Prop where
  | shed {visitor : Visitor} {start : Nat} {sampled : Bool} {verdict : Verdict}
      (rejected : ¬ goesOn visitor verdict) :
      Proceeds plan gate (.waiting (.ask visitor start sampled)) (.decided verdict)
        (.shed (busyResponse plan.settings verdict)) 0 []
  | passed {visitor : Visitor} {start : Nat} {sampled : Bool} {verdict : Verdict}
      (passes : goesOn visitor verdict) :
      Proceeds plan gate (.waiting (.ask visitor start sampled)) (.decided verdict)
        (.handling ⟨start, sampled, some verdict⟩) 1 []
  | left {passage : Passage} {ending : HandlerEnd} (last : HandlerEnd)
      (unmetered : passage.verdict.any Verdict.contacted = false) :
      Proceeds plan gate (.handling passage) (.finished ending) (.ended last) 0 []
  | reported {passage : Passage} {ending : HandlerEnd} {verdict : Verdict}
      (given : passage.verdict = some verdict) (contacted : verdict.contacted = true) :
      Proceeds plan gate (.handling passage) (.finished ending)
        (.waiting (.report verdict ending (gate.completion passage ending))) 0
        [gate.completion passage ending]
  | delivered {verdict : Verdict} {ending : HandlerEnd} {completion : Completion}
      {delivered : Bool} (last : HandlerEnd) :
      Proceeds plan gate (.waiting (.report verdict ending completion)) (.delivered delivered)
        (.ended last) 0 []
  | released {verdict : Verdict} {completion : Completion} {delivered : Bool} :
      Proceeds plan gate (.waiting (.release verdict completion)) (.delivered delivered) .dropped 0
        []
  | dropped {job : Job} {canReport : Bool} :
      Proceeds plan gate (.waiting job) (.dropped canReport) .dropped 0 []
  | unreported {passage : Passage} {canReport : Bool}
      (silent : canReport = false ∨ passage.verdict.any Verdict.contacted = false) :
      Proceeds plan gate (.handling passage) (.dropped canReport) .dropped 0 []
  | abandoned {passage : Passage} {verdict : Verdict}
      (given : passage.verdict = some verdict) (contacted : verdict.contacted = true) :
      Proceeds plan gate (.handling passage) (.dropped true)
        (.waiting (.release verdict (gate.droppedCompletion passage))) 0
        [gate.droppedCompletion passage]

/-- No request proceeds to a call of its own. -/
theorem Proceeds.ne_calling {gate : Gate σ} {stage next : Stage} {incident : Incident}
    {starts : Nat} {reports : List Completion}
    (proceeds : Proceeds plan gate stage incident next starts reports) : next ≠ .calling := by
  cases proceeds <;> simp

section Proceeding

variable (plan : Plan) (gate : Gate σ) {passage : Passage} {verdict : Verdict}

theorem judge_of_goesOn {visitor : Visitor} (passes : goesOn visitor verdict) (start : Nat)
    (sampled : Bool) :
    gate.judge plan visitor start sampled verdict
      = (.passed ⟨start, sampled, some verdict⟩,
          (gate.warnIf plan (!verdict.contacted) .unmetered).record .started) := if_pos passes

theorem judge_of_not_goesOn {visitor : Visitor} (rejected : ¬ goesOn visitor verdict) (start : Nat)
    (sampled : Bool) :
    gate.judge plan visitor start sampled verdict
      = (.shed (busyResponse plan.settings verdict),
          gate.warnIf plan (!verdict.contacted) .unmetered) := if_neg rejected

theorem finishing_of_contacted (given : passage.verdict = some verdict)
    (contacted : verdict.contacted = true) (ending : HandlerEnd) :
    let completion := gate.completion passage ending
    gate.finishing plan passage ending
      = (.waiting (.report verdict ending completion), gate.record (.reported completion)) := by
  simp only [finishing, given, contacted, if_true]

theorem finishing_of_not_contacted (unmetered : passage.verdict.any Verdict.contacted = false)
    (ending : HandlerEnd) :
    ∃ last, (gate.finishing plan passage ending).1 = .ended last
      ∧ gate.Did (gate.finishing plan passage ending).2 0 [] := by
  unfold finishing
  cases given : passage.verdict with
  | none => exact ⟨ending, rfl, .refl gate⟩
  | some verdict =>
      have notContacted : verdict.contacted = false := by simpa [given] using unmetered
      simp only [notContacted, Bool.false_eq_true, if_false]
      exact ⟨_, rfl, did_depart plan gate verdict ending⟩

theorem abandoning_of_contacted (given : passage.verdict = some verdict)
    (contacted : verdict.contacted = true) :
    let completion := gate.droppedCompletion passage
    gate.abandoning plan passage true
        = (.waiting (.release verdict completion), gate.record (.reported completion))
      ∧ gate.abandoning plan passage false = (.dropped, gate.warn plan .unreleased) := by
  simp only [abandoning, given, Option.filter_some, contacted, if_true, Bool.false_eq_true,
    if_false, and_self]

theorem abandoning_of_not_contacted (unmetered : passage.verdict.any Verdict.contacted = false)
    (canReport : Bool) : gate.abandoning plan passage canReport = (.dropped, gate) := by
  have none : passage.verdict.filter Verdict.contacted = none := by
    rw [Option.filter_eq_none_iff]
    intro verdict given
    simpa [given] using unmetered
  rw [abandoning, none]

variable {plan gate}

/-- Everything that can happen to a request. -/
theorem proceeds_of_proceed? {stage next : Stage} {incident : Incident} {after : Gate σ}
    (proceeded : gate.proceed? plan stage incident = some (next, after)) :
    ∃ starts reports, Proceeds plan gate stage incident next starts reports
      ∧ gate.Did after starts reports := by
  cases stage with
  | waiting job =>
      cases incident with
      | decided verdict =>
          cases job with
          | ask visitor start sampled =>
              simp only [proceed?, Option.some.injEq, Prod.mk.injEq] at proceeded
              obtain ⟨rfl, rfl⟩ := proceeded
              have warned := did_warnIf plan gate (!verdict.contacted) .unmetered
              by_cases passes : goesOn visitor verdict
              · rw [judge_of_goesOn plan gate passes]
                exact ⟨1, [], .passed passes, warned.trans (did_started _)⟩
              · rw [judge_of_not_goesOn plan gate passes]
                exact ⟨0, [], .shed passes, warned⟩
          | _ => cases proceeded
      | delivered delivered =>
          cases job with
          | ask visitor start sampled => cases proceeded
          | report verdict ending completion =>
              simp only [proceed?, Option.some.injEq, Prod.mk.injEq] at proceeded
              obtain ⟨rfl, rfl⟩ := proceeded
              exact ⟨0, [], .delivered _,
                (did_warnIf plan gate _ _).trans (did_depart plan _ verdict ending)⟩
          | release verdict completion =>
              cases proceeded
              exact ⟨0, [], .released, .refl gate⟩
      | dropped canReport =>
          have dropped : (next, after) = (.dropped, gate) := by
            cases job with
            | release verdict completion => cases proceeded
            | _ =>
                cases proceeded
                rfl
          cases dropped
          exact ⟨0, [], .dropped, .refl gate⟩
      | finished ending => cases job <;> cases proceeded
  | handling passage =>
      have metering : passage.verdict.any Verdict.contacted = false
          ∨ ∃ verdict, passage.verdict = some verdict ∧ verdict.contacted = true := by
        cases metered : passage.verdict.any Verdict.contacted with
        | false => exact .inl rfl
        | true => exact .inr (Option.any_eq_true _ _ |>.mp metered)
      cases incident with
      | finished ending =>
          simp only [proceed?, Option.some.injEq] at proceeded
          rcases metering with unmetered | ⟨verdict, given, contacted⟩
          · obtain ⟨last, ended, did⟩ := finishing_of_not_contacted plan gate unmetered ending
            rw [proceeded] at ended did
            obtain rfl : next = .ended last := ended
            exact ⟨0, [], .left last unmetered, did⟩
          · rw [finishing_of_contacted plan gate given contacted] at proceeded
            cases proceeded
            exact ⟨0, _, .reported given contacted, did_reported gate _⟩
      | dropped canReport =>
          simp only [proceed?, Option.some.injEq] at proceeded
          rcases metering with unmetered | ⟨verdict, given, contacted⟩
          · rw [abandoning_of_not_contacted plan gate unmetered] at proceeded
            cases proceeded
            exact ⟨0, [], .unreported (.inr unmetered), .refl gate⟩
          · obtain ⟨released, lost⟩ := abandoning_of_contacted plan gate given contacted
            cases canReport with
            | true =>
                rw [released] at proceeded
                cases proceeded
                exact ⟨0, _, .abandoned given contacted, did_reported gate _⟩
            | false =>
                rw [lost] at proceeded
                cases proceeded
                exact ⟨0, [], .unreported (.inl rfl), did_warn plan gate _⟩
      | _ => cases proceeded
  | _ => cases incident <;> cases proceeded

end Proceeding

end Gate

end AdmissionControl
