import AdmissionControl.Proofs.Client.Pairing
import AdmissionControl.Proofs.Gate.Showing

/-!
# Who is turned away

A request is turned away only by a rejection that its own call has read. Whatever else the far end
sends or leaves out, the request goes on, and nothing is reported on it.
-/

namespace AdmissionControl

open Wire

namespace Client

/-- The reply that a call for admission accepts from what it has at hand: bytes, and whether the
stream ended after them. It has nothing at hand if no connection took its request. -/
def Accepts (hand : Option (List UInt8 × Bool)) (reply : AdmitReply) : Prop :=
  ∃ bytes closed line, hand = some (bytes, closed) ∧ ReadsFrom line bytes closed
    ∧ AdmitReply.parse line = .ok reply

/-- A call for admission accepts a whole line that it has at hand. -/
def AcceptsLine (hand : Option (List UInt8 × Bool)) (reply : AdmitReply) : Prop :=
  ∃ line rest closed text, hand = some (line ++ Turn.lineFeed :: rest, closed)
    ∧ Turn.lineFeed ∉ line ∧ lineText? (line ++ [Turn.lineFeed]) = some text
    ∧ AdmitReply.parse text = .ok reply

/-- A call for admission accepts what the end of the stream cut off, as if it were a line. -/
def AcceptsCut (hand : Option (List UInt8 × Bool)) (reply : AdmitReply) : Prop :=
  ∃ cut text, hand = some (cut, true) ∧ Turn.lineFeed ∉ cut ∧ cut ≠ []
    ∧ lineText? cut = some text ∧ AdmitReply.parse text = .ok reply

/-- What a call has at hand after its request was sent. -/
def Link.hand? {κ : Type} (link : Link κ) : Arrival → Option (List UInt8 × Bool)
  | .refused => none
  | .received bytes closed => some (link.unread ++ bytes, closed)

/-- The verdict that a gate takes from what a call for admission has at hand. -/
def verdictFrom : Option (List UInt8 × Bool) → Verdict
  | none => .failOpen
  | some (bytes, closed) =>
      Backend.resultOr .failOpen ((readLine bytes closed).judge readVerdict)

/-- The reply that a call for admission accepts, computed. -/
def accepted? : Option (List UInt8 × Bool) → Option AdmitReply
  | none => none
  | some (bytes, closed) =>
      match readLine bytes closed with
      | .returned line => (AdmitReply.parse line).toOption
      | .failed _ | .unanswered => none

variable {hand : Option (List UInt8 × Bool)} {reply : AdmitReply}

/-- A call accepts a whole line or what was cut off. -/
theorem accepts_iff_line_or_cut :
    Accepts hand reply ↔ AcceptsLine hand reply ∨ AcceptsCut hand reply := by
  constructor
  · rintro ⟨bytes, closed, text, rfl, reads, parsed⟩
    cases reads with
    | line noFeed isText => exact .inl ⟨_, _, _, text, rfl, noFeed, isText, parsed⟩
    | cut noFeed nonempty isText => exact .inr ⟨_, text, rfl, noFeed, nonempty, isText, parsed⟩
  · rintro (⟨line, rest, closed, text, rfl, noFeed, isText, parsed⟩
      | ⟨cut, text, rfl, noFeed, nonempty, isText, parsed⟩)
    · exact ⟨_, _, text, rfl, .line noFeed isText, parsed⟩
    · exact ⟨_, _, text, rfl, .cut noFeed nonempty isText, parsed⟩

theorem accepts_iff : Accepts hand reply ↔ accepted? hand = some reply := by
  constructor
  · rintro ⟨bytes, closed, line, rfl, reads, parsed⟩
    simp only [accepted?, readLine_eq_returned_iff.mpr reads, parsed, Except.toOption]
  · intro accepted
    match hand, accepted with
    | some (bytes, closed), accepted =>
      rw [accepted?] at accepted
      split at accepted
      · next line read =>
        refine ⟨bytes, closed, line, rfl, readLine_eq_returned_iff.mp read, ?_⟩
        cases parsed : AdmitReply.parse line with
        | ok reply => rw [parsed] at accepted; exact congrArg _ (Option.some.inj accepted)
        | error fault => rw [parsed] at accepted; cases accepted
      · cases accepted
      · cases accepted

/-- The verdict comes from the accepted reply; what is not accepted counts as no answer. -/
theorem verdictFrom_eq_elim :
    verdictFrom hand = (accepted? hand).elim .failOpen Verdict.ofReply := by
  match hand with
  | none => rfl
  | some (bytes, closed) =>
      rw [verdictFrom, accepted?]
      cases readLine bytes closed with
      | failed | unanswered => rfl
      | returned line =>
          simp only [Outcome.judge, readVerdict]
          cases AdmitReply.parse line <;> rfl

theorem verdictFrom_of_accepts (accepts : Accepts hand reply) :
    verdictFrom hand = .ofReply reply := by
  rw [verdictFrom_eq_elim, accepts_iff.mp accepts, Option.elim_some]

theorem verdictFrom_of_not_accepts (unaccepted : ∀ reply, ¬ Accepts hand reply) :
    verdictFrom hand = .failOpen := by
  have nothing : accepted? hand = none :=
    Option.eq_none_iff_forall_ne_some.mpr fun reply => accepts_iff.not.mp (unaccepted reply)
  rw [verdictFrom_eq_elim, nothing, Option.elim_none]

/-- The call for admission gives the verdict that is taken from what it has at hand. -/
theorem resultOr_settle {σ κ : Type} (transport : Transport σ κ) (link : Link κ) (world : σ)
    (arrival : Arrival) :
    Backend.resultOr .failOpen (settle transport link world arrival readVerdict).outcome
      = verdictFrom (link.hand? arrival) := by
  cases arrival with
  | refused => rfl
  | received bytes closed => rw [settle_outcome, Link.hand?, verdictFrom]

end Client

namespace Gate

variable {σ κ : Type} {plan : Plan}

/-- Only a rejection that was accepted keeps a request from going on, and only an anonymous one. -/
theorem not_goesOn_verdictFrom_iff (visitor : Visitor) (hand : Option (List UInt8 × Bool)) :
    ¬ goesOn visitor (Client.verdictFrom hand)
      ↔ visitor = .anonymous ∧ ((∃ reply, Client.AcceptsLine hand reply ∧ reply.admitted = false)
        ∨ ∃ reply, Client.AcceptsCut hand reply ∧ reply.admitted = false) := by
  rw [← exists_or]
  simp only [← or_and_right, ← Client.accepts_iff_line_or_cut]
  have anonymous : ¬ visitor = .authenticated ↔ visitor = .anonymous := by
    cases visitor <;> decide
  rw [goesOn, not_or, anonymous]
  refine and_congr_right fun _ => ⟨fun rejected => ?_, ?_⟩
  · by_contra unaccepted
    by_cases accepted : ∃ reply, Client.Accepts hand reply
    · obtain ⟨reply, accepts⟩ := accepted
      rw [Client.verdictFrom_of_accepts accepts] at rejected
      exact unaccepted ⟨reply, accepts, by simpa [Verdict.ofReply] using rejected⟩
    · rw [Client.verdictFrom_of_not_accepts (not_exists.mp accepted)] at rejected
      exact rejected rfl
  · rintro ⟨reply, accepts, rejects⟩
    rw [Client.verdictFrom_of_accepts accepts]
    simpa [Verdict.ofReply] using rejects

section Fates

/-- Whether a request waits for its verdict. -/
def Stage.isAsking : Stage → Bool
  | .waiting (.ask _ _ _) => true
  | _ => false

/-- Whether a request was turned away. -/
def Stage.isShed : Stage → Bool
  | .shed _ => true
  | _ => false

/-- A request that has its verdict is not turned away any more. -/
theorem Proceeds.not_shed {gate : Gate σ} {stage next : Stage} {incident : Incident} {starts : Nat}
    {reports : List Completion} (proceeds : Proceeds plan gate stage incident next starts reports)
    (asking : stage.isAsking = false) :
    next.isAsking = false ∧ next.isShed = false := by
  cases proceeds with
  | shed | passed => cases asking
  | _ => exact ⟨rfl, rfl⟩

/-- Nothing happens any more to a request that was turned away. -/
theorem Visit.Goes.of_shed {gate : Gate σ} {before after : Visit} {response : Http.Response}
    (goes : before.Goes plan gate after) (shed : before.stage = .shed response) :
    after.stage = .shed response := by
  cases goes with
  | stays => exact shed
  | proceeds proceeds =>
      rw [shed] at proceeds
      cases proceeds

theorem Visit.Goes.not_shed {gate : Gate σ} {before after : Visit}
    (goes : before.Goes plan gate after)
    (decided : before.stage.isAsking = false ∧ before.stage.isShed = false) :
    after.stage.isAsking = false ∧ after.stage.isShed = false := by
  cases goes with
  | stays => exact decided
  | proceeds proceeds => exact proceeds.not_shed decided.1

/-- A gate that is switched off has started the handler of a request, and does nothing more. -/
structure Visit.Unmetered (visit : Visit) : Prop where
  isQuiet : visit.stage.isQuiet = true
  decided : visit.stage.isAsking = false ∧ visit.stage.isShed = false
  starts : visit.starts = 1
  reports : visit.reports = []

theorem Visit.Unmetered.goes {gate : Gate σ} {before after : Visit}
    (unmetered : before.Unmetered) (goes : before.Goes plan gate after) : after.Unmetered := by
  obtain ⟨isQuiet, decided, starts, reports⟩ := unmetered
  have decidedAfter := goes.not_shed decided
  cases goes with
  | stays => exact ⟨isQuiet, decided, starts, reports⟩
  | proceeds proceeds started reported =>
      obtain ⟨stillQuiet, rfl, rfl⟩ := proceeds.quiet isQuiet
      refine ⟨stillQuiet, decidedAfter, ?_, ?_⟩
      · rw [starts_goOn, started, starts]
      · rw [reports_goOn, reported, reports, List.append_nil]

namespace Lobby

variable {lobby : Lobby σ} {number : Nat} {visit : Visit}

theorem unmetered_run (disabled : plan.settings.enabled = false) (actions : List (Action σ))
    (all : ∀ visit ∈ lobby.visits, visit.Unmetered) :
    ∀ visit ∈ (lobby.run plan actions).visits, visit.Unmetered := by
  refine forall_run Visit.Unmetered (fun gate request => ?_) .goes actions all
  obtain ⟨started, reported⟩ := (did_started gate).eventsSince
  have received : gate.receive plan request
      = (⟨request, gate.time, .handling ⟨gate.time, false, none⟩,
          (gate.record .started).eventsSince gate⟩, gate.record .started) := by
    simp [receive, disabled]
  rw [received]
  exact ⟨rfl, ⟨rfl, rfl⟩, started, reported⟩

/-- What has become of a request some time after its verdict. -/
theorem run_decided
    (undecided : visit.stage
      = .waiting (.ask (plan.visitor visit.request) visit.came (visit.sampled plan)))
    (starts : visit.starts = 0) (reports : visit.reports = [])
    (found : lobby.visits[number]? = some visit) (verdict : Verdict) (later : List (Action σ)) :
    ∃ after, ((lobby.meet plan number (.decided verdict)).run plan later).visits[number]?
        = some after
      ∧ if goesOn (plan.visitor visit.request) verdict then
          after.stage.isShed = false ∧ after.starts = 1
            ∧ (verdict.contacted = false → after.reports = [])
        else
          after.stage = .shed (busyResponse plan.settings verdict)
            ∧ after.starts = 0 ∧ after.reports = [] := by
  by_cases passes : goesOn (plan.visitor visit.request) verdict
  · obtain ⟨handling, once, silent⟩ :=
      remains_of_passed undecided starts reports found passes
    obtain ⟨met, foundMet, stage⟩ := exists_of_stage? handling
    have decided : met.stage.isAsking = false ∧ met.stage.isShed = false := by
      rw [stage]
      exact ⟨rfl, rfl⟩
    obtain ⟨after, foundAfter, _, notShed⟩ :=
      kept_run (fun visit => visit.stage.isAsking = false ∧ visit.stage.isShed = false)
        (fun decided goes => goes.not_shed decided) foundMet decided later
    obtain ⟨same, foundSame, startsAfter⟩ := once later
    obtain rfl : after = same := Option.some.inj (foundAfter.symm.trans foundSame)
    refine ⟨after, foundAfter, ?_⟩
    rw [if_pos passes]
    refine ⟨notShed, startsAfter, fun uncontacted => ?_⟩
    obtain ⟨same, foundSame, _, reportsAfter⟩ := silent uncontacted later
    obtain rfl : after = same := Option.some.inj (foundAfter.symm.trans foundSame)
    exact reportsAfter
  · obtain ⟨shed, remains⟩ := remains_of_shed undecided starts reports found passes
    obtain ⟨met, foundMet, stage⟩ := exists_of_stage? shed
    obtain ⟨after, foundAfter, stageAfter⟩ :=
      kept_run (·.stage = .shed (busyResponse plan.settings verdict))
        (fun shed goes => goes.of_shed shed) foundMet stage later
    obtain ⟨same, foundSame, startsAfter, reportsAfter⟩ := remains later
    obtain rfl : after = same := Option.some.inj (foundAfter.symm.trans foundSame)
    refine ⟨after, foundAfter, ?_⟩
    rw [if_neg passes]
    exact ⟨stageAfter, startsAfter, reportsAfter⟩

end Lobby

end Fates

namespace Crowd

variable {transport : Transport σ κ} {crowd : Crowd σ κ} {lobby : Lobby (Backend.Shared σ κ)}
  {asked : List Http.Request} {told : Nat → List Event} {number : Nat} {action : Action}
  {hand : Option (List UInt8 × Bool)}

/-- The request whose call for admission returns in a step, and what the call has at hand then. -/
def answered? (transport : Transport σ κ) (crowd : Crowd σ κ) :
    Action → Option (Nat × Option (List UInt8 × Bool))
  | .take number =>
      match crowd.calling, crowd.requests[number]? with
      | none, some (.waiting (.ask _ _ _)) =>
          match crowd.gate.backend.client.ensureLink transport crowd.world with
          | some _ => none
          | none => some (number, none)
      | _, _ => none
  | .receive =>
      match crowd.calling with
      | some ⟨number, .ask _ _ _, .sent link arrival⟩ =>
          if Client.isAnswered link arrival then some (number, link.hand? arrival) else none
      | _ => none
  | _ => none

/-- How a call for admission returns. -/
theorem answered?_cases (answered : crowd.answered? transport action = some (number, hand)) :
    ∃ visitor start sampled,
      (action = .take number ∧ crowd.calling = none
          ∧ crowd.requests[number]? = some (.waiting (.ask visitor start sampled))
          ∧ crowd.gate.backend.client.ensureLink transport crowd.world = none ∧ hand = none)
        ∨ ∃ link arrival, action = .receive
            ∧ crowd.calling = some ⟨number, .ask visitor start sampled, .sent link arrival⟩
            ∧ Client.isAnswered link arrival = true ∧ hand = link.hand? arrival := by
  cases action with
  | take other =>
      unfold answered? at answered
      dsimp only at answered
      split at answered
      · next visitor start sampled free waits =>
        split at answered
        · cases answered
        · next unlinked =>
          cases answered
          exact ⟨visitor, start, sampled, .inl ⟨rfl, free, waits, unlinked, rfl⟩⟩
      · cases answered
  | receive =>
      unfold answered? at answered
      dsimp only at answered
      split at answered
      · next other visitor start sampled link arrival calling =>
        split at answered
        · next isAnswered =>
          cases answered
          exact ⟨visitor, start, sampled, .inr ⟨link, arrival, rfl, calling, isAnswered, rfl⟩⟩
        · cases answered
      · cases answered
  | _ => cases answered

/-- A request whose call for admission returns has its verdict. -/
theorem Shows.act_answered (shows : crowd.Shows lobby asked told) (plan : Plan)
    (answered : crowd.answered? transport action = some (number, hand)) :
    let after := crowd.act plan transport action
    crowd.concerned? action = some number
      ∧ (∃ visitor start sampled,
          lobby.stage? number = some (.waiting (.ask visitor start sampled)))
      ∧ ∃ shared, after.Shows
          (lobby.run plan [.change shared, .meet number (.decided (Client.verdictFrom hand))]) asked
          (telling told (some number) (after.gate.eventsSince crowd.gate)) := by
  intro after
  obtain ⟨visitor, start, sampled, ⟨rfl, free, waits, unlinked, rfl⟩
    | ⟨link, arrival, rfl, calling, isAnswered, rfl⟩⟩ := answered?_cases answered
  · have here : lobby.stage? number = some (.waiting (.ask visitor start sampled)) := by
      rw [shows.stage number (by simp [waits]), waits]
    have eq : after = _ := take_of_none free waits unlinked
    rw [eq]
    exact ⟨rfl, ⟨_, _, _, here⟩, _, shows.goOn here _ (by simp [free])⟩
  · obtain ⟨_, here⟩ := shows.called _ calling
    have eq : after = _ := receive_of_sent calling isAnswered
    rw [eq, ← Client.resultOr_settle transport link crowd.world arrival]
    refine ⟨?_, ⟨_, _, _, here⟩, _, shows.goOn here _ (by simp [calling])⟩
    rw [concerned?, calling, Option.map_some]

/-- A request that was turned away is shown as turned away. -/
theorem Shows.shed_iff (shows : crowd.Shows lobby asked told) {visit : Visit}
    (found : lobby.visits[number]? = some visit) (response : Http.Response) :
    crowd.requests[number]? = some (.shed response) ↔ visit.stage = .shed response := by
  have here := Lobby.stage?_eq found
  by_cases isAtCall : crowd.requests[number]? = some .calling
  · obtain ⟨call, calling, rfl⟩ := shows.calling number isAtCall
    rw [(shows.called call calling).2, Option.some.injEq] at here
    rw [isAtCall, ← here]
    simp
  · rw [← shows.stage number isAtCall, here, Option.some.injEq]

theorem eventsOf_append (plan : Plan) (transport : Transport σ κ) (number : Nat)
    (crowd : Crowd σ κ) (actions later : List Action) :
    crowd.eventsOf plan transport number (actions ++ later)
      = crowd.eventsOf plan transport number actions
        ++ (crowd.run plan transport actions).eventsOf plan transport number later := by
  induction actions generalizing crowd with
  | nil => rfl
  | cons action rest inductionHypothesis =>
      simp only [List.cons_append, eventsOf, inductionHypothesis, List.append_assoc]
      rfl

theorem run_append (crowd : Crowd σ κ) (actions later : List Action) :
    crowd.run plan transport (actions ++ later)
      = (crowd.run plan transport actions).run plan transport later :=
  List.foldl_append

theorem came_append (actions later : List Action) :
    came (actions ++ later) = came actions ++ came later := List.filterMap_append

theorem Shows.events_eq (shows : crowd.Shows lobby asked told) {visit : Visit}
    (found : lobby.visits[number]? = some visit) : visit.events = told number := by
  rw [← shows.events, found]
  rfl

/-- The request under a number as it is shown. -/
theorem Shows.exists_visit (shows : crowd.Shows lobby asked told) {request : Http.Request}
    (requested : asked[number]? = some request) :
    ∃ visit, lobby.visits[number]? = some visit ∧ visit.request = request
      ∧ visit.events = told number := by
  rw [← shows.requests, List.getElem?_map] at requested
  obtain ⟨visit, found, same⟩ := Option.map_eq_some_iff.mp requested
  exact ⟨visit, found, same, shows.events_eq found⟩

/-- Behind a gate that is switched off, a request has its handler started, and that is all. -/
theorem run_disabled (disabled : plan.settings.enabled = false) (transport : Transport σ κ)
    (gate : Gate (Backend.Shared σ κ)) (actions : List Action) {request : Http.Request}
    (requested : (came actions)[number]? = some request) :
    let start : Crowd σ κ := { gate }
    let events := start.eventsOf plan transport number actions
    (∀ response, (start.run plan transport actions).requests[number]? ≠ some (.shed response))
      ∧ events.count .started = 1 ∧ events.filterMap Event.completion? = [] := by
  intro start events
  obtain ⟨steps, shows⟩ := run_shows plan transport gate actions
  obtain ⟨visit, found, _, eventsEq⟩ := shows.exists_visit requested
  obtain ⟨_, ⟨_, notShed⟩, starts, reports⟩ :=
    Lobby.unmetered_run disabled steps (by simp) visit (List.mem_of_getElem? found)
  refine ⟨fun response shed => ?_, ?_, ?_⟩
  · rw [(shows.shed_iff found response).mp shed] at notShed
    cases notShed
  · exact (congrArg (List.count _) eventsEq).symm.trans starts
  · exact (congrArg (List.filterMap _) eventsEq).symm.trans reports

/-- What has become of a request some time after its call for admission returned. -/
theorem run_answered (plan : Plan) (transport : Transport σ κ) (gate : Gate (Backend.Shared σ κ))
    (before after : List Action) {request : Http.Request}
    (requested : (came (before ++ action :: after))[number]? = some request)
    (answered : (({ gate } : Crowd σ κ).run plan transport before).answered? transport action
      = some (number, hand)) :
    let start : Crowd σ κ := { gate }
    let crowd := start.run plan transport (before ++ action :: after)
    let events := start.eventsOf plan transport number (before ++ action :: after)
    let starts := events.count .started
    let reports := events.filterMap Event.completion?
    let verdict := Client.verdictFrom hand
    plan.settings.enabled = true
      ∧ if goesOn (plan.visitor request) verdict then
          (∀ response, crowd.requests[number]? ≠ some (.shed response)) ∧ starts = 1
            ∧ (verdict.contacted = false → reports = [])
        else
          crowd.requests[number]? = some (.shed (busyResponse plan.settings verdict))
            ∧ starts = 0 ∧ reports = [] := by
  intro start crowd events starts reports verdict
  obtain ⟨steps, shows⟩ := run_shows plan transport gate before
  obtain ⟨concerned, ⟨_, _, _, here⟩, shared, showsNext⟩ := shows.act_answered plan answered
  obtain ⟨later, showsLater⟩ := showsNext.run plan transport after
  obtain ⟨visit, found, waits⟩ := Lobby.exists_of_stage? here
  have enabled : plan.settings.enabled = true := by
    by_contra disabled
    obtain ⟨_, ⟨decided, _⟩, _⟩ :=
      Lobby.unmetered_run (by simpa using disabled) steps (by simp) visit
        (List.mem_of_getElem? found)
    rw [waits] at decided
    cases decided
  have sameRequest : visit.request = request := by
    have cameBefore : (came before)[number]? = some visit.request := by
      rw [← shows.requests, List.getElem?_map, found, Option.map_some]
    have inBounds := (List.getElem?_eq_some_iff.mp cameBefore).1
    rw [came_append, List.getElem?_append_left inBounds] at requested
    exact Option.some.inj (cameBefore.symm.trans requested)
  refine ⟨enabled, ?_⟩
  cases Lobby.accounts_run enabled steps (by simp) visit (List.mem_of_getElem? found) with
  | undecided undecided unstarted unreported =>
      obtain ⟨last, foundLast, fate⟩ := Lobby.run_decided undecided unstarted unreported
        (show (Lobby.change _ shared).visits[number]? = some visit from found) verdict later
      have eventsEq : last.events = events := by
        rw [showsLater.events_eq foundLast]
        simp only [events, eventsOf_append, eventsOf, telling, List.append_assoc, start, concerned]
      have shed_iff (response : Http.Response) :
          crowd.requests[number]? = some (.shed response) ↔ last.stage = .shed response := by
        simp only [crowd, run_append]
        exact showsLater.shed_iff foundLast response
      rw [sameRequest, Visit.starts, Visit.reports, eventsEq] at fate
      split at fate
      · next passes =>
        obtain ⟨notShed, once⟩ := fate
        rw [if_pos passes]
        refine ⟨fun response shed => ?_, once⟩
        rw [(shed_iff response).mp shed] at notShed
        cases notShed
      · next rejected =>
        rw [if_neg rejected]
        exact ⟨(shed_iff _).mpr fate.1, fate.2⟩
  | handled handling => rw [waits] at handling; cases handling
  | settled isQuiet => rw [waits] at isQuiet; cases isQuiet

/-- A request is turned away exactly on a rejection that its own call for admission has read,
whatever the far end does, however requests wait for each other, and wherever they are dropped. A
gate that is switched off starts the handler of each request, and reports nothing. At a gate that is
switched on, a request whose call for admission has returned is answered 503, without its handler
being started, if it counts as anonymous and its call has accepted a line that rejects it, or what
the end of the stream cut off of one and the client takes for a line. Otherwise its handler was
started, once. Nothing is reported on a request whose call has accepted neither: one that had no
connection, found the end of the stream, or read what is not text or not such a reply. -/
theorem run_sheds_only_rejected (plan : Plan) (transport : Transport σ κ)
    (gate : Gate (Backend.Shared σ κ)) (actions : List Action) {number : Nat}
    {request : Http.Request} (requested : (came actions)[number]? = some request) :
    let start : Crowd σ κ := { gate }
    let crowd := start.run plan transport actions
    let events := start.eventsOf plan transport number actions
    let starts := events.count .started
    let reports := events.filterMap Event.completion?
    let isShed := ∃ response, crowd.requests[number]? = some (.shed response)
      ∧ response.status = 503
    (plan.settings.enabled = false → ¬ isShed ∧ starts = 1 ∧ reports = [])
      ∧ ∀ before action after hand, actions = before ++ action :: after →
          (start.run plan transport before).answered? transport action = some (number, hand) →
          (isShed ↔ plan.settings.enabled = true ∧ plan.visitor request = .anonymous
              ∧ ((∃ reply, Client.AcceptsLine hand reply ∧ reply.admitted = false)
                ∨ ∃ reply, Client.AcceptsCut hand reply ∧ reply.admitted = false))
            ∧ (isShed → starts = 0 ∧ reports = [])
            ∧ (¬ isShed → starts = 1)
            ∧ ((∀ reply, ¬ Client.AcceptsLine hand reply ∧ ¬ Client.AcceptsCut hand reply) →
              reports = []) := by
  intro start crowd events starts reports isShed
  constructor
  · intro disabled
    obtain ⟨notShed, once⟩ := run_disabled disabled transport gate actions requested
    exact ⟨fun ⟨response, shed, _⟩ => notShed response shed, once⟩
  · rintro before action after hand rfl answered
    obtain ⟨enabled, fate⟩ := run_answered plan transport gate before after requested answered
    by_cases passes : goesOn (plan.visitor request) (Client.verdictFrom hand)
    · rw [if_pos passes] at fate
      obtain ⟨notShed, once, silent⟩ := fate
      have unshed : ¬ isShed := fun ⟨response, shed, _⟩ => notShed response shed
      have unrejected := (not_goesOn_verdictFrom_iff _ _).not.mp (not_not.mpr passes)
      refine ⟨iff_of_false unshed fun ⟨_, rejected⟩ => unrejected rejected,
        fun shed => absurd shed unshed, fun _ => once, fun unaccepted => silent ?_⟩
      have nothing (reply : AdmitReply) : ¬ Client.Accepts hand reply := by
        rw [Client.accepts_iff_line_or_cut, not_or]
        exact unaccepted reply
      rw [Client.verdictFrom_of_not_accepts nothing]
      rfl
    · rw [if_neg passes] at fate
      obtain ⟨shed, unstarted, unreported⟩ := fate
      have hasShed : isShed := ⟨_, shed, rfl⟩
      exact ⟨iff_of_true hasShed ⟨enabled, (not_goesOn_verdictFrom_iff _ _).mp passes⟩,
        fun _ => ⟨unstarted, unreported⟩, fun unshed => absurd hasShed unshed,
        fun _ => unreported⟩

/-- Three requests before a far end that rejects the first, cannot count while it rejects the
second, and hangs up on the third. Only the first is turned away, and nothing is reported on the
others. -/
theorem run_sheds_only_rejected_of_scripted :
    let plan : Plan := ⟨{ enabled := true }, .cookie "_t".toList⟩
    let transport := ScriptedDaemon.transport
    let reply (text : String) : ScriptedReply := some (Text.encode text.toList)
    let daemon : ScriptedDaemon :=
      ⟨[[reply "REJECT limit=1 inflight=1 degraded=0\n", reply "REJECT limit=one\n"], []],
        .closed, []⟩
    let start : Crowd ScriptedDaemon Unit := { gate := { backend := { world := daemon } } }
    let call (number : Nat) : List Action := [.take number, .send, .receive]
    let anonymous : Http.Request := ⟨"/".toList, []⟩
    let actions : List Action :=
      [.come anonymous, .come anonymous, .come anonymous] ++ call 0 ++ call 1 ++ call 2
        ++ [.finish 1 .panicked, .finish 2 .panicked]
    let events (number : Nat) := start.eventsOf plan transport number actions
    ((events 0).count .started = 0 ∧ (events 1).count .started = 1 ∧ (events 2).count .started = 1)
      ∧ (events 1).filterMap Event.completion? = []
      ∧ (events 2).filterMap Event.completion? = [] := by
  intro plan transport reply daemon start call anonymous actions events
  have came (number : Nat) (isRequest : number < 3) :
      (came actions)[number]? = some anonymous := by
    revert number
    decide +kernel
  let coming : List Action := [.come anonymous, .come anonymous, .come anonymous]
  let rejection := Text.encode "REJECT limit=1 inflight=1 degraded=0\n".toList
  let uncounted := Text.encode "REJECT limit=one\n".toList
  obtain ⟨_, first⟩ :=
    run_sheds_only_rejected plan transport start.gate actions (came 0 (by decide))
  obtain ⟨_, second⟩ :=
    run_sheds_only_rejected plan transport start.gate actions (came 1 (by decide))
  obtain ⟨_, third⟩ :=
    run_sheds_only_rejected plan transport start.gate actions (came 2 (by decide))
  obtain ⟨shedFirst, silentFirst, _⟩ := first (coming ++ [.take 0, .send]) .receive
    (call 1 ++ call 2 ++ [.finish 1 .panicked, .finish 2 .panicked]) (some (rejection, false)) rfl
    (by decide +kernel)
  obtain ⟨shedSecond, _, startedSecond, silentSecond⟩ :=
    second (coming ++ call 0 ++ [.take 1, .send]) .receive
      (call 2 ++ [.finish 1 .panicked, .finish 2 .panicked]) (some (uncounted, true)) rfl
      (by decide +kernel)
  obtain ⟨shedThird, _, startedThird, silentThird⟩ :=
    third (coming ++ call 0 ++ call 1 ++ [.take 2, .send]) .receive
      [.finish 1 .panicked, .finish 2 .panicked] (some ([], true)) rfl
      (by decide +kernel)
  have accepted :
      Client.accepted? (some (rejection, false)) = some ⟨false, some 1, some 1, false⟩ := by
    decide +kernel
  have neither {hand : Option (List UInt8 × Bool)} (nothing : Client.accepted? hand = none)
      (reply : AdmitReply) : ¬ Client.AcceptsLine hand reply ∧ ¬ Client.AcceptsCut hand reply := by
    rw [← not_or, ← Client.accepts_iff_line_or_cut, Client.accepts_iff, nothing]
    nofun
  have unacceptedSecond := neither (show Client.accepted? (some (uncounted, true)) = none by
    decide +kernel)
  have unacceptedThird := neither (show Client.accepted? (some ([], true)) = none by decide)
  have unshedSecond := fun shed =>
    match (shedSecond.mp shed).2.2 with
    | .inl ⟨reply, accepts, _⟩ => (unacceptedSecond reply).1 accepts
    | .inr ⟨reply, accepts, _⟩ => (unacceptedSecond reply).2 accepts
  have unshedThird := fun shed =>
    match (shedThird.mp shed).2.2 with
    | .inl ⟨reply, accepts, _⟩ => (unacceptedThird reply).1 accepts
    | .inr ⟨reply, accepts, _⟩ => (unacceptedThird reply).2 accepts
  have rejects := Client.accepts_iff_line_or_cut.mp (Client.accepts_iff.mpr accepted)
  have shed := shedFirst.mpr ⟨rfl, rfl, rejects.imp (fun line => ⟨_, line, rfl⟩)
    fun cut => ⟨_, cut, rfl⟩⟩
  exact ⟨⟨(silentFirst shed).1, startedSecond unshedSecond, startedThird unshedThird⟩,
    silentSecond unacceptedSecond, silentThird unacceptedThird⟩

end Crowd

end Gate

end AdmissionControl
