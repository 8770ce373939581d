import AdmissionControl.Proofs.Gate.Proceeding

/-!
# What is reported of a request

Whatever the backend does, and wherever a request is dropped, its handler is started once at most,
and one completion at most is reported for it. A request that has nothing left to report never
reports again, so the step that settles it says what is reported in all.
-/

namespace AdmissionControl

open Wire

namespace Gate

variable {σ : Type} {plan : Plan}

theorem Did.eventsSince {before after : Gate σ} {starts : Nat} {reports : List Completion}
    (did : before.Did after starts reports) :
    (after.eventsSince before).count .started = starts
      ∧ (after.eventsSince before).filterMap Event.completion? = reports := by
  obtain ⟨events, logged, started, reported⟩ := did
  have since : after.eventsSince before = events := by
    rw [Gate.eventsSince, logged, List.drop_left]
  rw [since]
  exact ⟨started, reported⟩

/-- Whether nothing more is started or reported for a request at a stage. -/
def Stage.isQuiet : Stage → Bool
  | .waiting (.ask _ _ _) => false
  | .handling passage => !passage.verdict.any Verdict.contacted
  | _ => true

/-- What happens to a request that is quiet leaves it quiet. -/
theorem Proceeds.quiet {gate : Gate σ} {stage next : Stage} {incident : Incident} {starts : Nat}
    {reports : List Completion} (proceeds : Proceeds plan gate stage incident next starts reports)
    (isQuiet : stage.isQuiet = true) : next.isQuiet = true ∧ starts = 0 ∧ reports = [] := by
  cases proceeds with
  | shed | passed => cases isQuiet
  | reported given contacted | abandoned given contacted =>
      simp [Stage.isQuiet, given, contacted] at isQuiet
  | left | delivered | released | dropped | unreported => exact ⟨rfl, rfl, rfl⟩

/-- What a step can do to a request: nothing, or it proceeds. -/
inductive Visit.Goes (plan : Plan) (gate : Gate σ) (visit : Visit) : Visit → Prop where
  | stays : visit.Goes plan gate visit
  | proceeds {incident : Incident} {stage : Stage} {events : List Event} {starts : Nat}
      {reports : List Completion}
      (proceeds : Proceeds plan gate visit.stage incident stage starts reports)
      (started : events.count .started = starts)
      (reported : events.filterMap Event.completion? = reports) :
      visit.Goes plan gate (visit.goOn stage events)

/-- What moves a request makes it proceed. -/
theorem Visit.Goes.of_proceed? {gate after : Gate σ} {visit : Visit} {incident : Incident}
    {next : Stage} (proceeded : gate.proceed? plan visit.stage incident = some (next, after)) :
    visit.Goes plan gate (visit.goOn next (after.eventsSince gate)) := by
  obtain ⟨starts, reports, proceeds, did⟩ := proceeds_of_proceed? proceeded
  obtain ⟨started, reported⟩ := did.eventsSince
  exact .proceeds proceeds started reported

@[simp] theorem Visit.starts_goOn (visit : Visit) (stage : Stage) (events : List Event) :
    (visit.goOn stage events).starts = visit.starts + events.count .started := List.count_append

@[simp] theorem Visit.reports_goOn (visit : Visit) (stage : Stage) (events : List Event) :
    (visit.goOn stage events).reports
      = visit.reports ++ events.filterMap Event.completion? := List.filterMap_append

namespace Lobby

variable {lobby : Lobby σ} {number : Nat} {visit : Visit}

theorem stage?_eq (found : lobby.visits[number]? = some visit) :
    lobby.stage? number = some visit.stage := by
  rw [stage?, found, Option.map_some]

theorem exists_of_stage? {stage : Stage} (here : lobby.stage? number = some stage) :
    ∃ visit, lobby.visits[number]? = some visit ∧ visit.stage = stage :=
  Option.map_eq_some_iff.mp here

/-- A request that something happens to is where that moves it. -/
theorem meet_of_proceed? (found : lobby.visits[number]? = some visit) {incident : Incident}
    {next : Stage} {after : Gate σ}
    (proceeded : lobby.gate.proceed? plan visit.stage incident = some (next, after)) :
    (lobby.meet plan number incident).gate = after
      ∧ (lobby.meet plan number incident).visits[number]?
          = some (visit.goOn next (after.eventsSince lobby.gate)) := by
  have put : lobby.meet plan number incident = lobby.put number next after := by
    rw [meet, stage?_eq found, Option.bind_some, proceeded]
  rw [put]
  refine ⟨rfl, ?_⟩
  simp only [Lobby.put, List.getElem?_modify, found, if_true]
  rfl

theorem length_visits_meet (lobby : Lobby σ) (number : Nat) (incident : Incident) :
    (lobby.meet plan number incident).visits.length = lobby.visits.length := by
  unfold meet
  split
  · exact List.length_modify ..
  · rfl

/-- What happens to a request leaves all as the requests that they are. -/
theorem requests_meet (lobby : Lobby σ) (number : Nat) (incident : Incident) :
    (lobby.meet plan number incident).visits.map (·.request) = lobby.visits.map (·.request) := by
  unfold meet
  split
  · refine List.ext_getElem? fun other => ?_
    simp only [Lobby.put, List.getElem?_map, List.getElem?_modify]
    cases lobby.visits[other]? with
    | none => rfl
    | some visit => split <;> rfl
  · rfl

theorem visits_meet_of_ne {other : Nat} (different : other ≠ number) (incident : Incident) :
    (lobby.meet plan number incident).visits[other]? = lobby.visits[other]? := by
  unfold meet
  split
  · simp only [Lobby.put, List.getElem?_modify, if_neg different.symm]
    exact Option.map_id_apply
  · rfl

/-- A request stays as it is when something happens, or that moves it. -/
theorem moved_meet (found : lobby.visits[number]? = some visit) (other : Nat)
    (incident : Incident) :
    (lobby.meet plan other incident).visits[number]? = some visit
      ∨ ∃ next after, lobby.gate.proceed? plan visit.stage incident = some (next, after)
        ∧ (lobby.meet plan other incident).visits[number]?
            = some (visit.goOn next (after.eventsSince lobby.gate)) := by
  by_cases concerned : other = number
  · subst concerned
    cases proceeded : lobby.gate.proceed? plan visit.stage incident with
    | none =>
        have unmoved : lobby.meet plan other incident = lobby := by
          rw [meet, stage?_eq found, Option.bind_some, proceeded]
        rw [unmoved]
        exact .inl found
    | some moved =>
        obtain ⟨next, after⟩ := moved
        exact .inr ⟨next, after, rfl, (meet_of_proceed? found proceeded).2⟩
  · refine .inl ?_
    rw [visits_meet_of_ne (Ne.symm concerned), found]

/-- So it is with any step. -/
theorem moved_act (found : lobby.visits[number]? = some visit) (action : Action σ) :
    (lobby.act plan action).visits[number]? = some visit
      ∨ ∃ incident next after, lobby.gate.proceed? plan visit.stage incident = some (next, after)
        ∧ (lobby.act plan action).visits[number]?
            = some (visit.goOn next (after.eventsSince lobby.gate)) := by
  cases action with
  | come request =>
      have inBounds : number < lobby.visits.length := (List.getElem?_eq_some_iff.mp found).1
      refine .inl ?_
      simp only [act, come, List.getElem?_append_left inBounds, found]
  | meet other incident =>
      exact (moved_meet found other incident).imp_right fun moved => ⟨incident, moved⟩
  | advance | change => exact .inl found

theorem goes_meet (found : lobby.visits[number]? = some visit) (other : Nat)
    (incident : Incident) :
    ∃ after, (lobby.meet plan other incident).visits[number]? = some after
      ∧ visit.Goes plan lobby.gate after := by
  obtain stays | ⟨next, after, proceeded, moved⟩ := moved_meet found other incident
  · exact ⟨visit, stays, .stays⟩
  · exact ⟨_, moved, .of_proceed? proceeded⟩

/-- What a step does to a request that has come. -/
theorem goes_act (found : lobby.visits[number]? = some visit) (action : Action σ) :
    ∃ after, (lobby.act plan action).visits[number]? = some after
      ∧ visit.Goes plan lobby.gate after := by
  obtain stays | ⟨incident, next, after, proceeded, moved⟩ := moved_act found action
  · exact ⟨visit, stays, .stays⟩
  · exact ⟨_, moved, .of_proceed? proceeded⟩

/-- What no step takes from a request, no run takes from it. -/
theorem kept_run (kept : Visit → Prop)
    (step : ∀ {gate : Gate σ} {before after : Visit}, kept before → before.Goes plan gate after →
      kept after)
    (found : lobby.visits[number]? = some visit) (holds : kept visit) (later : List (Action σ)) :
    ∃ after, (lobby.run plan later).visits[number]? = some after ∧ kept after := by
  induction later generalizing lobby visit with
  | nil => exact ⟨visit, found, holds⟩
  | cons action later inductionHypothesis =>
      obtain ⟨next, foundNext, goes⟩ := goes_act found action
      exact inductionHypothesis foundNext (step holds goes)

/-- However it goes on, the handler of a request is started so often in all, and these completions
are reported for the request. -/
def Remains (plan : Plan) (lobby : Lobby σ) (number starts : Nat) (reports : List Completion) :
    Prop :=
  ∀ later, ∃ visit, (lobby.run plan later).visits[number]? = some visit
    ∧ visit.starts = starts ∧ visit.reports = reports

theorem remains_of_isQuiet (found : lobby.visits[number]? = some visit)
    (isQuiet : visit.stage.isQuiet = true) :
    lobby.Remains plan number visit.starts visit.reports := by
  let kept (after : Visit) : Prop :=
    after.stage.isQuiet = true ∧ after.starts = visit.starts ∧ after.reports = visit.reports
  have step : ∀ {gate : Gate σ} {before after : Visit}, kept before →
      before.Goes plan gate after → kept after := by
    rintro gate before after ⟨isQuiet, starts, reports⟩ goes
    cases goes with
    | stays => exact ⟨isQuiet, starts, reports⟩
    | proceeds proceeds started reported =>
        obtain ⟨stillQuiet, rfl, rfl⟩ := proceeds.quiet isQuiet
        refine ⟨stillQuiet, ?_, ?_⟩
        · rw [Visit.starts_goOn, started, Nat.add_zero, starts]
        · rw [Visit.reports_goOn, reported, List.append_nil, reports]
  intro later
  obtain ⟨after, foundAfter, _, same⟩ := kept_run kept step found ⟨isQuiet, rfl, rfl⟩ later
  exact ⟨after, foundAfter, same⟩

/-- A request after something happened to it. -/
theorem exists_met (found : lobby.visits[number]? = some visit) {incident : Incident}
    {next : Stage} {after : Gate σ} {starts : Nat} {reports : List Completion}
    (proceeded : lobby.gate.proceed? plan visit.stage incident = some (next, after))
    (did : lobby.gate.Did after starts reports) :
    ∃ met, (lobby.meet plan number incident).visits[number]? = some met ∧ met.stage = next
      ∧ met.starts = visit.starts + starts ∧ met.reports = visit.reports ++ reports := by
  obtain ⟨started, reported⟩ := did.eventsSince
  refine ⟨_, (meet_of_proceed? found proceeded).2, rfl, ?_, ?_⟩
  · rw [Visit.starts_goOn, started]
  · rw [Visit.reports_goOn, reported]

/-- What happens to a request settles it, if it is quiet after that. -/
theorem remains_meet (found : lobby.visits[number]? = some visit) {incident : Incident}
    {next : Stage} {after : Gate σ} {starts : Nat} {reports : List Completion}
    (proceeded : lobby.gate.proceed? plan visit.stage incident = some (next, after))
    (did : lobby.gate.Did after starts reports) (isQuiet : next.isQuiet = true) :
    (lobby.meet plan number incident).Remains plan number (visit.starts + starts)
      (visit.reports ++ reports) := by
  obtain ⟨met, foundMet, rfl, started, reported⟩ := exists_met found proceeded did
  rw [← started, ← reported]
  exact remains_of_isQuiet foundMet isQuiet

end Lobby

section Accounts

/-- Whether the latency of a request counts. -/
def Visit.sampled (plan : Plan) (visit : Visit) : Bool :=
  !isUnsampled plan.settings visit.request.path

theorem Visit.sampled_iff (plan : Plan) (visit : Visit) :
    visit.sampled plan = true
      ↔ ∀ start ∈ plan.settings.unsampledPrefixes, ¬ start <+: visit.request.path := by
  simp [sampled, isUnsampled, List.isPrefixOf_iff_prefix]

/-- The passage of a request that has gone on with a verdict. -/
def Visit.passage (plan : Plan) (visit : Visit) (verdict : Verdict) : Passage :=
  ⟨visit.came, visit.sampled plan, some verdict⟩

/-- What a gate that is switched on has done for a request: the request waits for its verdict, it is
in its handler, or nothing more comes of it. -/
inductive Visit.Accounts (plan : Plan) (visit : Visit) : Prop where
  | undecided
      (stage : visit.stage
        = .waiting (.ask (plan.visitor visit.request) visit.came (visit.sampled plan)))
      (starts : visit.starts = 0) (reports : visit.reports = [])
  | handled {verdict : Verdict}
      (stage : visit.stage = .handling (visit.passage plan verdict))
      (starts : visit.starts = 1) (reports : visit.reports = [])
  | settled (isQuiet : visit.stage.isQuiet = true) (starts : visit.starts ≤ 1)
      (reports : visit.reports.length ≤ 1)

variable {gate : Gate σ} {visit : Visit}

theorem Visit.Accounts.starts_le (accounts : visit.Accounts plan) : visit.starts ≤ 1 := by
  cases accounts <;> omega

theorem Visit.Accounts.length_reports_le (accounts : visit.Accounts plan) :
    visit.reports.length ≤ 1 := by
  cases accounts with
  | undecided _ _ reports | handled _ _ reports => simp [reports]
  | settled _ _ reports => exact reports

/-- What the gate has done for a request, after a step. -/
theorem Visit.Accounts.goes {after : Visit} (accounts : visit.Accounts plan)
    (goes : visit.Goes plan gate after) : after.Accounts plan := by
  cases goes with
  | stays => exact accounts
  | @proceeds incident stage events more further proceeds started reported =>
      have startsAfter : (visit.goOn stage events).starts = visit.starts + more := by
        rw [starts_goOn, started]
      have reportsAfter : (visit.goOn stage events).reports = visit.reports ++ further := by
        rw [reports_goOn, reported]
      cases accounts with
      | undecided undecided starts reports =>
          rw [starts] at startsAfter
          rw [reports] at reportsAfter
          rw [undecided] at proceeds
          cases proceeds with
          | shed | dropped => exact .settled rfl (by omega) (by simp [reportsAfter])
          | passed => exact .handled rfl startsAfter reportsAfter
      | handled handling starts reports =>
          rw [starts] at startsAfter
          rw [reports] at reportsAfter
          rw [handling] at proceeds
          cases proceeds with
          | left | unreported | reported | abandoned =>
              exact .settled rfl (by omega) (by simp [reportsAfter])
      | settled isQuiet starts reports =>
          obtain ⟨stillQuiet, rfl, rfl⟩ := proceeds.quiet isQuiet
          exact .settled stillQuiet (by omega) (by simpa [reportsAfter] using reports)

theorem Visit.Goes.starts_le {after : Visit} (goes : visit.Goes plan gate after) :
    visit.starts ≤ after.starts := by
  cases goes with
  | stays => exact Nat.le_refl _
  | proceeds =>
      rw [starts_goOn]
      exact Nat.le_add_right ..

namespace Lobby

variable {lobby : Lobby σ} {number : Nat}

/-- A request that has started its handler never starts it again. -/
theorem starts_run (found : lobby.visits[number]? = some visit) (accounts : visit.Accounts plan)
    (started : visit.starts = 1) (later : List (Action σ)) :
    ∃ after, (lobby.run plan later).visits[number]? = some after ∧ after.starts = 1 := by
  let kept (visit : Visit) : Prop := visit.Accounts plan ∧ visit.starts = 1
  have step : ∀ {gate : Gate σ} {before after : Visit}, kept before →
      before.Goes plan gate after → kept after := by
    rintro gate before after ⟨accounts, started⟩ goes
    have accountsAfter := accounts.goes goes
    have atMost := accountsAfter.starts_le
    have atLeast := goes.starts_le
    exact ⟨accountsAfter, by omega⟩
  obtain ⟨after, foundAfter, _, once⟩ := kept_run kept step found ⟨accounts, started⟩ later
  exact ⟨after, foundAfter, once⟩

/-- What all requests are like at first, and no step takes from them, they are always like. -/
theorem forall_run (kept : Visit → Prop)
    (arrives : ∀ (gate : Gate σ) request, kept (gate.receive plan request).1)
    (step : ∀ {gate : Gate σ} {before after : Visit}, kept before → before.Goes plan gate after →
      kept after)
    (actions : List (Action σ)) (all : ∀ visit ∈ lobby.visits, kept visit) :
    ∀ visit ∈ (lobby.run plan actions).visits, kept visit := by
  induction actions generalizing lobby with
  | nil => exact all
  | cons action actions inductionHypothesis =>
      refine inductionHypothesis fun visit isVisit => ?_
      cases action with
      | come request =>
          rcases List.mem_append.mp isVisit with before | new
          · exact all visit before
          · rw [List.mem_singleton.mp new]
            exact arrives lobby.gate request
      | meet other incident =>
          obtain ⟨number, found⟩ := List.getElem?_of_mem isVisit
          have inBounds : number < lobby.visits.length := by
            rw [← length_visits_meet lobby other incident]
            exact (List.getElem?_eq_some_iff.mp found).1
          obtain ⟨after, foundAfter, goes⟩ :=
            goes_meet (List.getElem?_eq_getElem inBounds) other incident
          obtain rfl : visit = after := Option.some.inj (found.symm.trans foundAfter)
          exact step (all _ (List.getElem_mem inBounds)) goes
      | advance | change => exact all visit isVisit

/-- A request that comes to a gate which is switched on waits for its verdict. -/
theorem receive_of_enabled (enabled : plan.settings.enabled = true) (gate : Gate σ)
    (request : Http.Request) :
    let asked := (gate.ask plan request).2
    let sampled := !isUnsampled plan.settings request.path
    gate.receive plan request
      = (⟨request, gate.time, .waiting (.ask (plan.visitor request) gate.time sampled),
          asked.eventsSince gate⟩, asked) := by
  simp only [receive, if_pos enabled, ask_visitor]

/-- What the gate has done for every request that came. -/
theorem accounts_run (enabled : plan.settings.enabled = true) (actions : List (Action σ))
    (accounts : ∀ visit ∈ lobby.visits, visit.Accounts plan) :
    ∀ visit ∈ (lobby.run plan actions).visits, visit.Accounts plan := by
  refine forall_run (·.Accounts plan) (fun gate request => ?_) .goes actions accounts
  obtain ⟨unstarted, unreported⟩ := (did_ask plan gate request).eventsSince
  rw [receive_of_enabled enabled]
  exact .undecided rfl unstarted unreported

end Lobby

end Accounts

namespace Lobby

variable {lobby : Lobby σ} {number : Nat} {visit : Visit}

section Undecided

variable (undecided : visit.stage
  = .waiting (.ask (plan.visitor visit.request) visit.came (visit.sampled plan)))
variable (starts : visit.starts = 0) (reports : visit.reports = [])
variable (found : lobby.visits[number]? = some visit)
include undecided starts reports found

/-- A request that is dropped before its verdict is not reported. -/
theorem remains_of_dropped (canReport : Bool) :
    (lobby.meet plan number (.dropped canReport)).Remains plan number 0 [] := by
  have proceeded : lobby.gate.proceed? plan visit.stage (.dropped canReport)
      = some (.dropped, lobby.gate) := by
    rw [undecided]
    rfl
  have settled := remains_meet found proceeded (.refl lobby.gate) rfl
  rwa [starts, reports] at settled

/-- A request that is turned away never starts its handler, and is not reported. -/
theorem remains_of_shed {verdict : Verdict}
    (rejected : ¬ goesOn (plan.visitor visit.request) verdict) :
    let judged := lobby.meet plan number (.decided verdict)
    judged.stage? number = some (.shed (busyResponse plan.settings verdict))
      ∧ judged.Remains plan number 0 [] := by
  have proceeded : lobby.gate.proceed? plan visit.stage (.decided verdict)
      = some (.shed (busyResponse plan.settings verdict),
          lobby.gate.warnIf plan (!verdict.contacted) .unmetered) := by
    simp only [undecided, proceed?, judge_of_not_goesOn plan lobby.gate rejected, Stage.ofEntry]
  have did := did_warnIf plan lobby.gate (!verdict.contacted) .unmetered
  have settled := remains_meet found proceeded did rfl
  rw [starts, reports] at settled
  obtain ⟨met, foundMet, shed, _⟩ := exists_met found proceeded did
  exact ⟨shed ▸ stage?_eq foundMet, settled⟩

/-- A request that goes on starts its handler, once in all. Without a verdict of the backend nothing
is reported on it. -/
theorem remains_of_passed {verdict : Verdict}
    (passes : goesOn (plan.visitor visit.request) verdict) :
    let judged := lobby.meet plan number (.decided verdict)
    judged.stage? number = some (.handling (visit.passage plan verdict))
      ∧ (∀ later, ∃ after, (judged.run plan later).visits[number]? = some after
          ∧ after.starts = 1)
      ∧ (verdict.contacted = false → judged.Remains plan number 1 []) := by
  intro judged
  have proceeded : lobby.gate.proceed? plan visit.stage (.decided verdict)
      = some (.handling (visit.passage plan verdict),
          (lobby.gate.warnIf plan (!verdict.contacted) .unmetered).record .started) := by
    simp only [undecided, proceed?, judge_of_goesOn plan lobby.gate passes, Stage.ofEntry,
      Visit.passage]
  have did := (did_warnIf plan lobby.gate (!verdict.contacted) .unmetered).trans (did_started _)
  obtain ⟨met, foundMet, handling, started, reported⟩ := exists_met found proceeded did
  refine ⟨handling ▸ stage?_eq foundMet, ?_, ?_⟩
  · rw [starts] at started
    rw [reports] at reported
    obtain ⟨after, foundAfter, goes⟩ :
        ∃ after, judged.visits[number]? = some after ∧ visit.Goes plan lobby.gate after :=
      goes_meet found number (.decided verdict)
    obtain rfl : met = after := Option.some.inj (foundMet.symm.trans foundAfter)
    have accounts := (Visit.Accounts.undecided undecided starts reports).goes goes
    exact starts_run foundMet accounts started
  · intro uncontacted
    have settled := remains_meet found proceeded did
      (by simp [Stage.isQuiet, Visit.passage, uncontacted])
    rwa [starts, reports] at settled

end Undecided

section Handled

variable {verdict : Verdict} (contacted : verdict.contacted = true)
variable (handling : visit.stage = .handling (visit.passage plan verdict))
variable (starts : visit.starts = 1) (reports : visit.reports = [])
variable (found : lobby.visits[number]? = some visit)
include contacted handling starts reports found

/-- When the handler of a request ends that has a verdict of the backend, this is reported, and
nothing else. -/
theorem remains_of_finished (ending : HandlerEnd) :
    (lobby.meet plan number (.finished ending)).Remains plan number 1
      [lobby.gate.completion (visit.passage plan verdict) ending] := by
  let completion := lobby.gate.completion (visit.passage plan verdict) ending
  have proceeded : lobby.gate.proceed? plan visit.stage (.finished ending)
      = some (.waiting (.report verdict ending completion),
          lobby.gate.record (.reported completion)) := by
    rw [handling, proceed?, finishing_of_contacted plan lobby.gate rfl contacted ending]
  have settled := remains_meet found proceeded (did_reported _ _) rfl
  rwa [starts, reports] at settled

/-- When a request is dropped in its handler that has a verdict of the backend, this is reported if
it can be, and nothing else. -/
theorem remains_of_abandoned :
    (lobby.meet plan number (.dropped true)).Remains plan number 1
        [lobby.gate.droppedCompletion (visit.passage plan verdict)]
      ∧ (lobby.meet plan number (.dropped false)).Remains plan number 1 [] := by
  let completion := lobby.gate.droppedCompletion (visit.passage plan verdict)
  have given : (visit.passage plan verdict).verdict = some verdict := rfl
  obtain ⟨released, lost⟩ := abandoning_of_contacted plan lobby.gate given contacted
  constructor
  · have proceeded : lobby.gate.proceed? plan visit.stage (.dropped true)
        = some (.waiting (.release verdict completion),
            lobby.gate.record (.reported completion)) := by
      rw [handling, proceed?, released]
    have settled := remains_meet found proceeded (did_reported _ _) rfl
    rwa [starts, reports] at settled
  · have proceeded : lobby.gate.proceed? plan visit.stage (.dropped false)
        = some (.dropped, lobby.gate.warn plan .unreleased) := by
      rw [handling, proceed?, lost]
    have settled := remains_meet found proceeded (did_warn plan _ _) rfl
    rwa [starts, reports] at settled

end Handled

end Lobby

/-- What is reported of a request, by a gate that is switched on, whatever its backend does and
wherever requests are dropped. The handler of a request is started once at most, and one completion
at most is reported. A request that is dropped before its verdict starts no handler and is not
reported, nor is one that is turned away. A request that goes on starts its handler, once in all; if
its verdict is not from the backend, nothing is reported. Otherwise its end in the handler is
reported, once: as the status of the response or as 500 after a panic, with the latency that the
response states or else the time since the request came, sampled unless its path starts as one of
those that are left out. A request that is dropped in its handler is reported, once, as an unsampled
499 while something can run the report, and else never. -/
theorem run_reports_once (plan : Plan) (enabled : plan.settings.enabled = true) (gate : Gate σ)
    (actions : List (Lobby.Action σ)) {number : Nat} {visit : Visit}
    (found : (({ gate } : Lobby σ).run plan actions).visits[number]? = some visit) :
    let lobby := ({ gate } : Lobby σ).run plan actions
    let after (incident : Incident) := lobby.meet plan number incident
    let milliseconds := wholeMilliseconds (toSeconds (lobby.gate.time - visit.came))
    let sampled :=
      decide (∀ start ∈ plan.settings.unsampledPrefixes, ¬ start <+: visit.request.path)
    (visit.starts ≤ 1 ∧ visit.reports.length ≤ 1)
      ∧ (∀ visitor start counts, visit.stage = .waiting (.ask visitor start counts) →
          (∀ canReport, (after (.dropped canReport)).Remains plan number 0 [])
            ∧ ∀ verdict,
                if plan.visitor visit.request = .authenticated ∨ verdict.admitted = true then
                  (after (.decided verdict)).stage? number
                      = some (.handling ⟨visit.came, sampled, some verdict⟩)
                    ∧ (∀ later, ∃ visit,
                        ((after (.decided verdict)).run plan later).visits[number]? = some visit
                          ∧ visit.starts = 1)
                    ∧ (verdict.contacted = false →
                        (after (.decided verdict)).Remains plan number 1 [])
                else
                  (after (.decided verdict)).stage? number
                      = some (.shed (busyResponse plan.settings verdict))
                    ∧ (after (.decided verdict)).Remains plan number 0 [])
      ∧ (∀ passage verdict, visit.stage = .handling passage → passage.verdict = some verdict →
          verdict.contacted = true →
          (∀ response, (after (.finished (.responded response))).Remains plan number 1
              [⟨response.status, (statedLatency? response.headers).getD milliseconds, sampled⟩])
            ∧ (after (.finished .panicked)).Remains plan number 1 [⟨500, milliseconds, sampled⟩]
            ∧ (after (.dropped true)).Remains plan number 1 [⟨499, milliseconds, false⟩]
            ∧ (after (.dropped false)).Remains plan number 1 []) := by
  intro lobby after milliseconds sampled
  have accounts : visit.Accounts plan :=
    Lobby.accounts_run enabled actions (by simp) visit (List.mem_of_getElem? found)
  have sampledEq : visit.sampled plan = sampled := by
    rw [Bool.eq_iff_iff, Visit.sampled_iff, decide_eq_true_iff]
  refine ⟨⟨accounts.starts_le, accounts.length_reports_le⟩, ?_, ?_⟩
  · intro visitor start counts waits
    cases accounts with
    | undecided undecided starts reports =>
        refine ⟨Lobby.remains_of_dropped undecided starts reports found, fun verdict => ?_⟩
        split
        · next passes =>
          rw [← sampledEq]
          exact Lobby.remains_of_passed undecided starts reports found passes
        · next rejected => exact Lobby.remains_of_shed undecided starts reports found rejected
    | handled handling => rw [handling] at waits; cases waits
    | settled isQuiet => rw [waits] at isQuiet; cases isQuiet
  · intro passage verdict handled given contacted
    cases accounts with
    | undecided undecided => rw [undecided] at handled; cases handled
    | handled handling starts reports =>
        obtain rfl : _ = passage := Stage.handling.inj (handling.symm.trans handled)
        obtain rfl : _ = verdict := Option.some.inj given
        have finished := Lobby.remains_of_finished contacted handling starts reports found
        obtain ⟨released, lost⟩ :=
          Lobby.remains_of_abandoned contacted handling starts reports found
        rw [Visit.passage, sampledEq] at finished released
        exact ⟨fun response => finished (.responded response), finished .panicked, released, lost⟩
    | settled isQuiet =>
        simp [handled, Stage.isQuiet, given, contacted] at isQuiet

/-- A request that cannot be classified, under a path whose latencies are left out. It is let
through by the backend, and its response says that it took a quarter of a second. -/
theorem run_reports_once_of_unclassified :
    let plan : Plan :=
      ⟨{ enabled := true, unsampledPrefixes := ["/assets".toList] }, Classifier.failing "broken"⟩
    let request : Http.Request := ⟨"/assets/logo".toList, []⟩
    let verdict : Verdict := ⟨true, some 4, some 1, false, true⟩
    let response : Http.Response := ⟨200, [("x-runtime".toList, Text.encode "0.25".toList)], []⟩
    let start : Lobby Unit := { gate := { backend := () } }
    let lobby := start.run plan
      [.come request, .meet 0 (.decided verdict), .advance (2 * Settings.nanosecondsPerSecond)]
    (lobby.meet plan 0 (.finished (.responded response))).Remains plan 0 1
        [⟨200, .ofNat 250, false⟩]
      ∧ (lobby.meet plan 0 (.dropped true)).Remains plan 0 1 [⟨499, .ofNat 2000, false⟩] := by
  intro plan request verdict response start lobby
  obtain ⟨_, _, handled⟩ := run_reports_once plan rfl start.gate _
    (show lobby.visits[0]? = some lobby.visits[0] from rfl)
  obtain ⟨finished, _, dropped, _⟩ := handled ⟨0, false, some verdict⟩ verdict rfl rfl rfl
  have stated : (statedLatency? response.headers).getD
      (wholeMilliseconds (toSeconds (lobby.gate.time - 0))) = .ofNat 250 := by decide +kernel
  have elapsed : wholeMilliseconds (toSeconds (lobby.gate.time - 0)) = .ofNat 2000 := by
    decide +kernel
  have unsampled : decide (∀ start ∈ plan.settings.unsampledPrefixes, ¬ start <+: request.path)
      = false := by decide
  have reported := finished response
  rw [show lobby.visits[0].came = 0 from rfl] at reported dropped
  rw [stated] at reported
  rw [elapsed] at dropped
  exact ⟨unsampled ▸ reported, dropped⟩

end Gate

end AdmissionControl
