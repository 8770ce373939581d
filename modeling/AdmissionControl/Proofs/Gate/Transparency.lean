import AdmissionControl.Gate.Conduct
import AdmissionControl.Gate.Traffic
import AdmissionControl.Proofs.Gate.Reports

/-!
# The gate is transparent

What a handler gives goes back as it is, but for the headers that show the verdict: a response keeps
its status, its body and all other headers, and a panic keeps its payload. This holds of a request
alone, of each that others come between, and of each that waits for a backend which takes its time.
-/

namespace AdmissionControl

open Wire

namespace Http.Headers

/-- All values of a name, in order. -/
def values (headers : Headers) (name : String) : List Value :=
  (headers.filter (·.1 = name.toList)).map (·.2)

/-- Inserting gives a name exactly one value, and leaves the values of all others. -/
@[simp] theorem values_insert (headers : Headers) (name other : String) (value : Value) :
    (headers.insert name value).values other
      = if other = name then [value] else headers.values other := by
  rw [values, insert, List.filter_append, List.filter_filter]
  split
  · next same => simp [same]
  · next different =>
    have distinct : name.toList ≠ other.toList := fun eq => different (String.toList_inj.mp eq).symm
    have stays (header : List Char × Value) :
        (decide (header.1 = other.toList) && decide (header.1 ≠ name.toList))
          = decide (header.1 = other.toList) := by
      by_cases isOther : header.1 = other.toList
      · simp [isOther, distinct.symm]
      · simp [isOther]
    rw [List.filter_congr fun header _ => stays header]
    simp [distinct, values]

end Http.Headers

namespace Gate

variable {σ ε : Type}

/-- The names of the headers that show a verdict. -/
def verdictNames : List String := ["x-ac-limit", "x-ac-inflight", "x-ac-degraded"]

/-- The one value that shows a number, or the values there were if it is left open. -/
def numberOr (values : List Http.Value) : Option UInt32 → List Http.Value
  | some number => [Http.ofNumber number.toNat]
  | none => values

/-- A response that shows a verdict, and is else as the handler gave it. A number that the verdict
leaves open stays as the handler set it. -/
structure Labels (verdict : Verdict) (handled returned : Http.Response) : Prop where
  status : returned.status = handled.status
  body : returned.body = handled.body
  others (name : String) (isOther : name ∉ verdictNames) :
    returned.headers.values name = handled.headers.values name
  degraded : returned.headers.values "x-ac-degraded"
    = [Text.encode (if verdict.degraded then "1" else "0").toList]
  limit : returned.headers.values "x-ac-limit"
    = numberOr (handled.headers.values "x-ac-limit") verdict.limit
  inflight : returned.headers.values "x-ac-inflight"
    = numberOr (handled.headers.values "x-ac-inflight") verdict.inflight

theorem values_showVerdict (verdict : Verdict) (headers : Http.Headers) (name : String) :
    (showVerdict verdict headers).values name
      = if name = "x-ac-degraded" then [Text.encode (writeFlag verdict.degraded)]
        else if name = "x-ac-inflight" then numberOr (headers.values name) verdict.inflight
        else if name = "x-ac-limit" then numberOr (headers.values name) verdict.limit
        else headers.values name := by
  unfold showVerdict numberOr
  by_cases isInflight : name = "x-ac-inflight"
  · cases verdict.limit <;> cases verdict.inflight <;> simp [isInflight]
  · cases verdict.limit <;> cases verdict.inflight <;> simp [isInflight]

theorem labels_showVerdict (verdict : Verdict) (response : Http.Response) :
    Labels verdict response
      { response with headers := showVerdict verdict response.headers } where
  status := rfl
  body := rfl
  others name isOther := by
    simp only [verdictNames, List.mem_cons, List.not_mem_nil, or_false, not_or] at isOther
    obtain ⟨notLimit, notInflight, notDegraded⟩ := isOther
    rw [values_showVerdict, if_neg notDegraded, if_neg notInflight, if_neg notLimit]
  degraded := by
    rw [values_showVerdict, if_pos rfl]
    cases verdict.degraded <;> rfl
  limit := by simp [values_showVerdict]
  inflight := by simp [values_showVerdict]

/-- What a handler gives and what is passed on: under a verdict the response with the headers that
show it, or the panic with its payload; without one what the handler gave. -/
def Returns : Option Verdict → Except ε Http.Response → Except ε Http.Response → Prop
  | some verdict, .ok handled, result =>
      ∃ returned, result = .ok returned ∧ Labels verdict handled returned
  | some _, .error payload, result => result = .error payload
  | none, outcome, result => result = outcome

/-- Without the gate's work in between, a handler gives what it gave. -/
@[simp] theorem HandlerEnd.resume_ofOutcome (outcome : Except ε Http.Response) :
    (HandlerEnd.ofOutcome outcome).resume outcome = outcome := by
  cases outcome <;> rfl

theorem returns_depart (plan : Plan) (gate : Gate σ) (verdict : Verdict)
    (outcome : Except ε Http.Response) :
    Returns (some verdict) outcome
      ((gate.depart plan verdict (.ofOutcome outcome)).1.resume outcome) := by
  cases outcome with
  | ok response => exact ⟨_, rfl, labels_showVerdict verdict response⟩
  | error payload => rfl

section Conduct

variable (plan : Plan) (backend : Backend σ) (gate : Gate σ) (request : Http.Request)
  (handler : Http.Request → Gate σ → Except ε Http.Response × Gate σ)

theorem enter_of_disabled (disabled : plan.settings.enabled = false) :
    gate.enter plan backend request
      = (.passed ⟨gate.time, false, none⟩, gate.record .started) := by
  simp [enter, disabled]

/-- A gate that is switched on asks its backend once, and starts the handler of a request that goes
on. All others it turns away. -/
theorem enter_of_enabled (enabled : plan.settings.enabled = true) {verdict : Verdict} {world : σ}
    (answer : backend.ask gate.backend (plan.visitor request) = (verdict, world)) :
    ∃ after, after.backend = world
      ∧ if goesOn (plan.visitor request) verdict then
          gate.enter plan backend request
              = (.passed ⟨gate.time, !isUnsampled plan.settings request.path, some verdict⟩, after)
            ∧ gate.Did after 1 []
        else
          gate.enter plan backend request = (.shed (busyResponse plan.settings verdict), after)
            ∧ gate.Did after 0 [] := by
  let asked : Gate σ := { (gate.ask plan request).2 with backend := world }
  have entered : gate.enter plan backend request
      = asked.judge plan (plan.visitor request) gate.time (!isUnsampled plan.settings request.path)
          verdict := by
    simp only [enter, enabled, Bool.not_true, Bool.false_eq_true, if_false, ask_visitor,
      backend_ask, answer, asked]
  have did : gate.Did asked 0 [] := did_ask plan gate request
  have warned := did.trans (did_warnIf plan asked (!verdict.contacted) .unmetered)
  by_cases passes : goesOn (plan.visitor request) verdict
  · rw [entered, judge_of_goesOn plan asked passes]
    simp only [if_pos passes]
    exact ⟨_, by simp [record, asked], rfl, warned.trans (did_started _)⟩
  · rw [entered, judge_of_not_goesOn plan asked passes]
    simp only [if_neg passes]
    exact ⟨_, by simp [asked], rfl, warned⟩

/-- A report is one report, whatever it changes at the backend. -/
theorem did_report (completion : Completion) :
    gate.Did (gate.report backend completion).2 0 [completion] := by
  obtain ⟨events, logged, started, reported⟩ := did_reported gate completion
  exact ⟨events, logged, started, reported⟩

/-- A request with a verdict leaves the gate after at most one report. -/
theorem leave_returns {passage : Passage} {verdict : Verdict}
    (given : passage.verdict = some verdict) (outcome : Except ε Http.Response) :
    let left := gate.leave plan backend passage (.ofOutcome outcome)
    Returns (some verdict) outcome (left.1.resume outcome)
      ∧ ∃ reports, gate.Did left.2 0 reports ∧ reports.length ≤ 1
        ∧ (verdict.contacted = false → reports = []) := by
  simp only [leave, given]
  refine ⟨returns_depart .., ?_⟩
  cases contacted : verdict.contacted with
  | false => exact ⟨[], did_depart plan gate verdict _, Nat.zero_le 1, fun _ => rfl⟩
  | true =>
      have reported := did_report backend gate (gate.completion passage (.ofOutcome outcome))
      rw [if_pos rfl]
      generalize gate.report backend _ = sent at reported ⊢
      have warned := reported.trans (did_warnIf plan sent.2 (!sent.1) .undelivered)
      exact ⟨_, warned.trans (did_depart plan _ verdict _), Nat.le_refl 1, nofun⟩

/-- The gate is transparent for what it lets through. A gate that is switched off starts the handler
and does nothing else, whatever classifier and backend it has. One that is switched on returns for a
request that is let through what the handler gave, with the headers that show the verdict, or the
panic of the handler, after at most one report. -/
theorem conduct_transparent :
    let result := gate.conduct plan backend request handler
    if plan.settings.enabled then
      let visitor := plan.visitor request
      let verdict := (backend.ask gate.backend visitor).1
      if goesOn visitor verdict then
        ∃ started, gate.Did started 1 []
          ∧ started.backend = (backend.ask gate.backend visitor).2
          ∧ Returns (some verdict) (handler request started).1 result.1
          ∧ ∃ reports, (handler request started).2.Did result.2 0 reports ∧ reports.length ≤ 1
            ∧ (verdict.contacted = false → reports = [])
      else
        result.1 = .ok (busyResponse plan.settings verdict) ∧ gate.Did result.2 0 []
    else
      result = handler request (gate.record .started)
        ∧ ∀ classifier other,
            gate.conduct { plan with classifier } other request handler = result := by
  intro result
  cases enabled : plan.settings.enabled with
  | true =>
      rw [if_pos rfl]
      intro visitor verdict
      obtain ⟨after, world, entered⟩ := enter_of_enabled plan backend gate request enabled rfl
      by_cases passes : goesOn visitor verdict
      · rw [if_pos passes] at entered
        obtain ⟨passed, started⟩ := entered
        rw [if_pos passes]
        simp only [result, conduct, passed]
        exact ⟨after, started, world, leave_returns plan backend _ rfl _⟩
      · rw [if_neg passes] at entered
        obtain ⟨shed, unstarted⟩ := entered
        rw [if_neg passes]
        simp only [result, conduct, shed]
        exact ⟨rfl, unstarted⟩
  | false =>
      rw [if_neg Bool.false_ne_true]
      have untouched (classifier : Classifier) (other : Backend σ) :
          gate.conduct { plan with classifier } other request handler
            = handler request (gate.record .started) := by
        simp only [conduct, enter_of_disabled { plan with classifier } other gate request enabled,
          leave, HandlerEnd.resume_ofOutcome]
      exact ⟨untouched plan.classifier backend, fun classifier other =>
        (untouched classifier other).trans (untouched plan.classifier backend).symm⟩

/-- A response that has some of the headers already, twice even, and a panic, before a backend to
which reports are not delivered. -/
theorem conduct_transparent_of_undelivered :
    let plan : Plan := ⟨{ enabled := true }, .cookie "_t".toList⟩
    let verdict : Verdict := ⟨true, some 8, none, true, true⟩
    let gate : Gate Backend.Fixed := { backend := ⟨verdict, false⟩ }
    let request : Http.Request := ⟨"/".toList, []⟩
    let header (name value : String) := (name.toList, Text.encode value.toList)
    let response : Http.Response :=
      ⟨404, [header "x-ac-limit" "1", header "x-ac-inflight" "few", header "set-cookie" "a=1",
        header "x-ac-inflight" "many", header "set-cookie" "b=2"], "nothing here".toList⟩
    let result (outcome : Except String Http.Response) :=
      (gate.conduct plan .fixed request fun _ started => (outcome, started)).1
    (∃ returned, result (.ok response) = .ok returned
        ∧ returned.headers.values "x-ac-limit" = [Text.encode "8".toList]
        ∧ returned.headers.values "x-ac-inflight"
          = [Text.encode "few".toList, Text.encode "many".toList]
        ∧ returned.headers.values "set-cookie"
          = [Text.encode "a=1".toList, Text.encode "b=2".toList])
      ∧ result (.error "out of ideas") = .error "out of ideas" := by
  intro plan verdict gate request header response result
  have transparent (outcome : Except String Http.Response) :=
    conduct_transparent plan .fixed gate request fun _ started => (outcome, started)
  have passes : goesOn (plan.visitor request) verdict := .inr rfl
  simp only [show plan.settings.enabled = true from rfl, if_true,
    show (Backend.fixed.ask gate.backend (plan.visitor request)).1 = verdict from rfl,
    if_pos passes] at transparent
  constructor
  · obtain ⟨_, _, _, ⟨returned, eq, labels⟩, _⟩ := transparent (.ok response)
    refine ⟨returned, eq, labels.limit.trans (by decide), labels.inflight.trans (by decide), ?_⟩
    exact (labels.others "set-cookie" (by decide)).trans (by decide)
  · obtain ⟨_, _, _, panicked, _⟩ := transparent (.error "out of ideas")
    exact panicked

end Conduct

/-! ## Requests among others -/

/-- What a handler gave that ended like this. -/
def HandlerEnd.outcome : HandlerEnd → Except Unit Http.Response
  | .responded response => .ok response
  | .panicked => .error ()

theorem HandlerEnd.ofOutcome_outcome (ending : HandlerEnd) : ofOutcome ending.outcome = ending := by
  cases ending <;> rfl

namespace Traffic

/-- What goes back to whom a request came from, if it is over. -/
def Outcome.answer? : Outcome → Option (Except Unit Http.Response)
  | .shed response => some (.ok response)
  | .ended ending => some ending.outcome
  | .pending | .dropped | .unknown => none

theorem resume_leave (plan : Plan) (backend : Backend σ) (gate : Gate σ) (passage : Passage)
    (ending : HandlerEnd) :
    (gate.leave plan backend passage ending).1.resume ending.outcome
      = (gate.leave plan backend passage ending).1.outcome := by
  unfold leave depart
  cases passage.verdict <;> cases ending <;> rfl

/-- A request whose handler does not wait is conducted through the gate. -/
theorem request_conducts (plan : Plan) (backend : Backend σ) (traffic : Traffic σ)
    (request : Http.Request) {handler : Handler} (atOnce : handler.waits = false) :
    let (outcome, after) := traffic.request plan backend request handler
    let (result, gate) := traffic.gate.conduct plan backend request fun _ started =>
      (handler.ending.outcome, started.advance handler.nanoseconds)
    outcome.answer? = some result ∧ after.gate = gate := by
  rcases entered : traffic.gate.enter plan backend request with ⟨entry, gate⟩
  cases entry with
  | shed response =>
      simp only [Traffic.request, conduct, entered, Outcome.answer?, and_self]
  | passed passage =>
      simp only [Traffic.request, conduct, entered, atOnce, Bool.false_eq_true, if_false,
        HandlerEnd.ofOutcome_outcome, resume_leave, Outcome.answer?, and_self]

/-- So is one whose handler waits, and is released when others may have come and gone. -/
theorem release_conducts (plan : Plan) (backend : Backend σ) {gate started : Gate σ}
    {request : Http.Request} {waiting : Waiting}
    (entered : gate.enter plan backend request = (.passed waiting.passage, started))
    {later : Traffic σ} {number : Nat} (found : later.find? number = some waiting) :
    let (outcome, after) := later.release plan backend number
    let (result, last) := gate.conduct plan backend request fun _ _ =>
      (waiting.ending.outcome, later.gate)
    outcome.answer? = some result ∧ after.gate = last := by
  simp only [release, found, conduct, entered, HandlerEnd.ofOutcome_outcome, resume_leave,
    Outcome.answer?, without, and_self]

end Traffic

namespace Lobby

variable {plan : Plan} {lobby : Lobby σ} {number : Nat} {stage : Stage}

/-- What holds of the stage of a request wherever it proceeds, holds of it after any step. -/
theorem stage_act {kept : Stage → Prop}
    (step : ∀ {gate after : Gate σ} {stage next : Stage} {incident : Incident}, kept stage →
      gate.proceed? plan stage incident = some (next, after) → kept next)
    (here : lobby.stage? number = some stage) (holds : kept stage) (action : Action σ) :
    ∃ next, (lobby.act plan action).stage? number = some next ∧ kept next := by
  obtain ⟨visit, found, rfl⟩ := exists_of_stage? here
  obtain stays | ⟨incident, next, after, proceeded, moved⟩ := moved_act found action
  · exact ⟨visit.stage, stage?_eq stays, holds⟩
  · exact ⟨next, stage?_eq moved, step holds proceeded⟩

/-- Nor does a run take it from the request. -/
theorem stage_run {kept : Stage → Prop}
    (step : ∀ {gate after : Gate σ} {stage next : Stage} {incident : Incident}, kept stage →
      gate.proceed? plan stage incident = some (next, after) → kept next)
    (here : lobby.stage? number = some stage) (holds : kept stage) (later : List (Action σ)) :
    ∃ next, (lobby.run plan later).stage? number = some next ∧ kept next := by
  induction later generalizing lobby stage with
  | nil => exact ⟨stage, here, holds⟩
  | cons action later inductionHypothesis =>
      obtain ⟨next, there, stillHolds⟩ := stage_act step here holds action
      exact inductionHypothesis there stillHolds

end Lobby

/-- Where a request can be whose handler gave an outcome: it waits for its report to be delivered,
it has returned, or it was dropped meanwhile. -/
inductive Stage.Follows (verdict : Option Verdict) (outcome : Except ε Http.Response) :
    Stage → Prop
  | reporting {given : Verdict} (eq : verdict = some given) (completion : Completion) :
      Stage.Follows verdict outcome (.waiting (.report given (.ofOutcome outcome) completion))
  | ended {last : HandlerEnd} (returns : Returns verdict outcome (last.resume outcome)) :
      Stage.Follows verdict outcome (.ended last)
  | dropped : Stage.Follows verdict outcome .dropped

section Following

variable {plan : Plan} {gate after : Gate σ} {outcome : Except ε Http.Response}

theorem follows_finishing (plan : Plan) (gate : Gate σ) (passage : Passage)
    (outcome : Except ε Http.Response) :
    (gate.finishing plan passage (.ofOutcome outcome)).1.Follows passage.verdict outcome := by
  unfold finishing
  cases given : passage.verdict with
  | none => exact .ended (HandlerEnd.resume_ofOutcome outcome)
  | some verdict =>
      dsimp only
      split
      · exact .reporting rfl _
      · exact .ended (returns_depart plan gate verdict outcome)

theorem Stage.Follows.proceed? {verdict : Option Verdict} {stage next : Stage}
    {incident : Incident} (follows : stage.Follows verdict outcome)
    (proceeded : gate.proceed? plan stage incident = some (next, after)) :
    next.Follows verdict outcome := by
  cases follows with
  | reporting eq completion =>
      cases incident with
      | delivered delivered =>
          cases proceeded
          exact .ended (eq ▸ returns_depart plan _ _ outcome)
      | dropped canReport =>
          cases proceeded
          exact .dropped
      | decided | finished => cases proceeded
  | ended returns => cases incident <;> cases proceeded
  | dropped => cases incident <;> cases proceeded

/-- Whatever the backend does, and whatever happens to other requests: a request whose handler ended
and that ends returns what a request alone would return. -/
theorem Lobby.run_returns {lobby : Lobby σ} {number : Nat} {passage : Passage}
    (handling : lobby.stage? number = some (.handling passage))
    (outcome : Except ε Http.Response) (later : List (Action σ)) {last : HandlerEnd}
    (ended : ((lobby.meet plan number (.finished (.ofOutcome outcome))).run plan later).stage?
      number = some (.ended last)) :
    Returns passage.verdict outcome (last.resume outcome) := by
  obtain ⟨visit, found, isHandling⟩ := exists_of_stage? handling
  have proceeded : lobby.gate.proceed? plan visit.stage (.finished (.ofOutcome outcome))
      = some (lobby.gate.finishing plan passage (.ofOutcome outcome)) := by
    rw [isHandling, Gate.proceed?]
  have finished := stage?_eq (meet_of_proceed? found proceeded).2
  obtain ⟨stage, there, follows⟩ := stage_run (fun follows => follows.proceed?) finished
    (follows_finishing plan lobby.gate passage outcome) later
  obtain rfl : stage = .ended last := Option.some.inj (there.symm.trans ended)
  cases follows with
  | ended returns => exact returns

end Following

end Gate

end AdmissionControl
