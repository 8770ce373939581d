import AdmissionControl.Proofs.Shift.Winding

/-!
# The course of a shutdown

From the beginning of a shutdown, every step of every worker winds up a connection that it had, or
closes one that it had not. Whatever peers do in between, nothing else is told. So it is by induction
on what happens.
-/

namespace AdmissionControl

/-- What has come on a connection after an action, as far as it was not looked at before. -/
def Shift.Action.onInbox (number : Nat) (inbox : Inbox) : Shift.Action → Inbox
  | .act other action => if other = number then action.onInbox inbox else inbox
  | .submit _ | .take _ | .read _ | .send _ | .lose _ | .beginShutdown | .heed _ | .abort _
  | .conclude => inbox

theorem Shift.Action.onInbox_of_own {action : Shift.Action} (own : action.isOfPeer = false)
    (number : Nat) (inbox : Inbox) : action.onInbox number inbox = inbox := by
  cases action with
  | submit | act => cases own
  | take | read | send | lose | beginShutdown | heed | abort | conclude => rfl

/-- What has come on a connection after actions, as far as the worker had not looked at it before. -/
def Charge.came (charge : Charge) (later : List Shift.Action) : Inbox :=
  later.foldl (Shift.Action.onInbox charge.number) charge.inbox

theorem Charge.came_concat (charge : Charge) (later : List Shift.Action) (action : Shift.Action) :
    charge.came (later ++ [action]) = action.onInbox charge.number (charge.came later) :=
  List.foldl_append

namespace Shift

open Pool (Plan)

variable {plan : Plan} {peers : List Inbox} {begun shift : Shift} {worker number : Nat}
  {later : List Action} {since : List Event}

section Course

/-- How far a shutdown has come that found workers as `begun`, when `later` has happened since and
the log has told of it. -/
structure WindsUp (plan : Plan) (begun : Shift) (later : List Action) (since : List Event)
    (shift : Shift) : Prop where
  winding : shift.phase ≠ .running
  log : shift.log = begun.log ++ since
  arrivals : begun.arrivals ≤ shift.arrivals
  limiter : Serves plan.service.tuning begun.limiter (exchanges since) shift.limiter
  queued : ∀ entry ∈ shift.queue, entry.1 ∉ begun.charges.map Charge.number
  busy : ∀ now ∈ shift.charges, ∃ charge ∈ begun.charges,
    charge.Winds plan.service (charge.came later) (exchangesOn since charge.number)
      (received since charge.number) now
  closed : ∀ charge ∈ begun.charges, ∀ ending, .closed charge.number ending ∈ since →
    ∃ reason, ending = some reason ∧ charge.Fate plan.service (charge.came later)
      (exchangesOn since charge.number) (received since charge.number) reason
  silent : ∀ number, number ∉ begun.charges.map Charge.number →
    exchangesOn since number = [] ∧ received since number = []

/-- Something happens that concerns none of the connections that workers had. -/
theorem WindsUp.closes (windsUp : WindsUp plan begun later since shift) {after : Shift}
    {closings : List Event} (areClosings : Closings closings)
    (elsewhere : ∀ number ∈ closedIn closings, number ∉ begun.charges.map Charge.number)
    (winding : after.phase ≠ .running) (arrivals : shift.arrivals ≤ after.arrivals)
    (limiter : after.limiter = shift.limiter) (queue : after.queue ⊆ shift.queue)
    (charges : after.charges ⊆ shift.charges) (log : after.log = shift.log ++ closings) :
    WindsUp plan begun later (since ++ closings) after where
  winding := winding
  log := by rw [log, windsUp.log, List.append_assoc]
  arrivals := Nat.le_trans windsUp.arrivals arrivals
  limiter := by
    rw [exchanges_append, areClosings.exchanges, List.append_nil, limiter]
    exact windsUp.limiter
  queued entry member := windsUp.queued entry (queue member)
  busy now member := by
    obtain ⟨charge, known, winds⟩ := windsUp.busy now (charges member)
    refine ⟨charge, known, ?_⟩
    rw [exchangesOn_append, received_append, areClosings.exchangesOn, areClosings.received,
      List.append_nil, List.append_nil]
    exact winds
  closed charge known ending member := by
    rw [exchangesOn_append, received_append, areClosings.exchangesOn, areClosings.received,
      List.append_nil, List.append_nil]
    rcases List.mem_append.mp member with earlier | own
    · exact windsUp.closed charge known ending earlier
    · exact absurd (List.mem_map.mpr ⟨charge, known, rfl⟩) (elsewhere _ (mem_closedIn own))
  silent number absent := by
    rw [exchangesOn_append, received_append, areClosings.exchangesOn, areClosings.received,
      List.append_nil, List.append_nil]
    exact windsUp.silent number absent

/-- What a worker's step tells, with the closing of its connection if it is done with it, concerns no
other connection. -/
theorem told_works {now next : Charge} {limiter last : Limiter} {events : List Event}
    (step : now.Works plan.service limiter last events next) (number : Nat) :
    let more := events
      ++ if next.isDone then [.closed next.number next.session.ending] else []
    exchangesOn more number = exchangesOn events number
      ∧ received more number = received events number
      ∧ (number ≠ now.number → exchangesOn events number = [] ∧ received events number = [])
      ∧ ∀ ending, .closed number ending ∈ more →
          next.isDone = true ∧ number = now.number ∧ ending = next.session.ending := by
  obtain ⟨own, silent⟩ := step.own
  obtain ⟨closings, _⟩ := closing_eq next
  dsimp only
  rw [exchangesOn_append, received_append, closings.exchangesOn, closings.received,
    List.append_nil, List.append_nil]
  refine ⟨rfl, rfl, fun different => ⟨exchangesOn_of_ne own different, received_of_ne own different⟩,
    fun ending member => ?_⟩
  rcases List.mem_append.mp member with told | closing
  · have isClosed := mem_closedIn told
    rw [silent] at isClosed
    cases isClosed
  · split at closing
    · next isDone =>
      have same := List.mem_singleton.mp closing
      injection same with sameNumber sameEnding
      exact ⟨isDone, sameNumber.trans step.number, sameEnding⟩
    · cases closing

/-- A worker goes on with a connection that it had when the shutdown began. -/
theorem WindsUp.works (windsUp : WindsUp plan begun later since shift)
    (tidy : ∀ charge ∈ begun.charges, charge.IsTidy)
    (once : (begun.charges.map Charge.number).Nodup) (faithful : Faithful plan peers shift)
    {now next : Charge} {limiter : Limiter} {events : List Event}
    (has : shift.duties[worker]? = some (.busy now))
    (step : now.Works plan.service shift.limiter limiter events next) :
    ∃ more, WindsUp plan begun later (since ++ more)
      ((shift.tell limiter events).settle worker next) := by
  obtain ⟨charge, known, winds⟩ := windsUp.busy now (mem_charges has)
  have but := faithful.but has
  have told (number : Nat) := told_works step number
  let more := events ++ if next.isDone then [.closed next.number next.session.ending] else []
  have elsewhere {number : Nat} (different : number ≠ now.number) :
      exchangesOn (since ++ more) number = exchangesOn since number
        ∧ received (since ++ more) number = received since number := by
    obtain ⟨exchanges, characters, silent, _⟩ := told number
    rw [exchangesOn_append, received_append, exchanges, characters, (silent different).1,
      (silent different).2, List.append_nil, List.append_nil]
    exact ⟨rfl, rfl⟩
  obtain ⟨goesOn, isDone⟩ : charge.WindsOn plan.service (charge.came later)
      (exchangesOn (since ++ more) charge.number) (received (since ++ more) charge.number) next := by
    obtain ⟨exchanges, characters, _⟩ := told charge.number
    rw [exchangesOn_append, received_append, exchanges, characters]
    exact step.winds (tidy charge known) winds
  refine ⟨more, windsUp.winding, ?_, windsUp.arrivals, ?_, windsUp.queued, fun other member => ?_,
    fun other isKnown ending member => ?_, fun number absent => ?_⟩
  · unfold settle tell
    dsimp only [more]
    rw [windsUp.log, List.append_assoc, List.append_assoc]
  · rw [exchanges_append, exchanges_append, (closing_eq next).1.exchanges, List.append_nil]
    exact windsUp.limiter.append step.serves
  · have present : worker < (shift.tell limiter events).duties.length := but.present
    have perm := charges_set_perm present (.after next)
    rw [Duty.charge?_after] at perm
    rcases List.mem_append.mp (perm.mem_iff.mp member) with isNext | isOther
    · split at isNext
      · cases isNext
      · next goingOn =>
        rw [List.mem_singleton.mp isNext]
        exact ⟨charge, known, goesOn (Bool.eq_false_iff.mpr goingOn)⟩
    · have isOther : other ∈ shift.others worker := isOther
      have different : other.number ≠ now.number := but.ne
        (List.mem_append_left _ (List.mem_append_left _ (List.mem_map.mpr ⟨other, isOther, rfl⟩)))
      obtain ⟨before, isKnown, stillWinds⟩ := windsUp.busy other
        ((charges_perm has).mem_iff.mpr (List.mem_append_right _ isOther))
      refine ⟨before, isKnown, ?_⟩
      rw [stillWinds.number] at different
      rw [(elsewhere different).1, (elsewhere different).2]
      exact stillWinds
  · rcases List.mem_append.mp member with earlier | new
    · have isClosed : other.number ∈ closedIn shift.log :=
        windsUp.log ▸ mem_closedIn (List.mem_append_right _ earlier)
      have different : other.number ≠ now.number := but.ne (List.mem_append_right _ isClosed)
      rw [(elsewhere different).1, (elsewhere different).2]
      exact windsUp.closed other isKnown ending earlier
    · obtain ⟨ended, same, rfl⟩ := (told other.number).2.2.2 ending new
      obtain rfl : other = charge :=
        List.inj_on_of_nodup_map once isKnown known (same.trans winds.number)
      exact isDone ended
  · have different : number ≠ now.number := fun same =>
      absent (List.mem_map.mpr ⟨charge, known, (same.trans winds.number).symm⟩)
    rw [(elsewhere different).1, (elsewhere different).2]
    exact windsUp.silent number absent

/-- Whatever happens by itself. -/
theorem WindsUp.moves (windsUp : WindsUp plan begun later since shift)
    (tidy : ∀ charge ∈ begun.charges, charge.IsTidy)
    (once : (begun.charges.map Charge.number).Nodup) (faithful : Faithful plan peers shift)
    {after : Shift} (moves : shift.Moves plan after) :
    ∃ more, WindsUp plan begun later (since ++ more) after := by
  cases moves with
  | rests => exact ⟨[], by rwa [List.append_nil]⟩
  | works has step => exact windsUp.works tidy once faithful has step
  | @takes worker number inbox rest idle queue =>
      have isDone : (Charge.opening true number inbox).isDone = true := rfl
      have elsewhere : number ∉ begun.charges.map Charge.number :=
        windsUp.queued (number, inbox) (queue ▸ List.mem_cons_self)
      have stopping : decide (shift.phase ≠ .running) = true := decide_eq_true windsUp.winding
      have present := (List.getElem?_eq_some_iff.mp idle).1
      obtain ⟨closings, closed⟩ := closing_eq (.opening true number inbox)
      rw [stopping]
      refine ⟨_, windsUp.closes closings (fun other isClosed => ?_) windsUp.winding (Nat.le_refl _) rfl
        (fun entry member => ?_) (fun charge member => ?_) rfl⟩
      · rw [closed, if_pos isDone] at isClosed
        exact List.mem_singleton.mp isClosed ▸ elsewhere
      · exact queue ▸ List.mem_cons_of_mem _ member
      · have perm := charges_set_perm present (.after (.opening true number inbox))
        rw [Duty.charge?_after, if_pos isDone] at perm
        exact (charges_perm idle).mem_iff.mpr (perm.mem_iff.mp member)
  | @stops worker idle =>
      have present := (List.getElem?_eq_some_iff.mp idle).1
      have perm := (charges_set_perm present .stopped).trans (charges_perm idle).symm
      refine ⟨[], windsUp.closes (fun _ member => absurd member List.not_mem_nil)
        (fun _ member => absurd member List.not_mem_nil) windsUp.winding (Nat.le_refl _) rfl
        (List.Subset.refl _) (fun charge member => perm.mem_iff.mp member)
        (List.append_nil _).symm⟩
  | begins running => exact absurd running windsUp.winding
  | concludes =>
      refine ⟨_, windsUp.closes (closings_map shift.queue) (fun number isClosed => ?_) nofun
        (Nat.le_refl _) rfl (List.nil_subset _) (List.Subset.refl _) rfl⟩
      rw [closedIn_map] at isClosed
      obtain ⟨entry, member, rfl⟩ := List.mem_map.mp isClosed
      exact windsUp.queued entry member

/-- A submission is refused. -/
theorem WindsUp.submit (windsUp : WindsUp plan begun later since shift)
    (faithful : Faithful plan peers begun) (inbox : Inbox) :
    ∃ more, WindsUp plan begun later (since ++ more) (shift.submit plan inbox) := by
  have refused : shift.submit plan inbox
      = { shift with
          arrivals := shift.arrivals + 1
          log := shift.log ++ [.closed shift.arrivals none] } := by
    simp [Shift.submit, outcome, windsUp.winding]
  rw [refused]
  refine ⟨[.closed shift.arrivals none], windsUp.closes
    (fun event member => ⟨_, _, List.mem_singleton.mp member⟩) (fun number isClosed known => ?_)
    windsUp.winding (Nat.le_succ _) rfl (List.Subset.refl _) (List.Subset.refl _) rfl⟩
  obtain rfl : number = shift.arrivals := List.mem_singleton.mp isClosed
  have isOpen : shift.arrivals ∈ begun.opened ++ closedIn begun.log :=
    List.mem_append_left _ (List.mem_append_left _ known)
  have before := List.mem_range.mp (faithful.accounted.mem_iff.mp isOpen)
  exact Nat.not_lt.mpr windsUp.arrivals before

/-- A peer does something. -/
theorem WindsUp.act (windsUp : WindsUp plan begun later since shift) (number : Nat)
    (action : PeerAction) :
    WindsUp plan begun (later ++ [.act number action]) since (shift.act number action) where
  winding := windsUp.winding
  log := windsUp.log
  arrivals := windsUp.arrivals
  limiter := windsUp.limiter
  queued entry member := by
    obtain ⟨before, waits, rfl⟩ := List.mem_map.mp member
    have elsewhere := windsUp.queued before waits
    split
    · next same => exact same ▸ elsewhere
    · exact elsewhere
  busy now member := by
    rw [charges, Shift.act, charges_map_onCharge] at member
    obtain ⟨before, has, rfl⟩ := List.mem_map.mp member
    obtain ⟨charge, known, winds⟩ := windsUp.busy before has
    refine ⟨charge, known, ?_⟩
    rw [Charge.came_concat, Action.onInbox, Charge.onPeer]
    by_cases same : number = charge.number
    · rw [if_pos same, if_pos (winds.number.trans same.symm)]
      exact winds.onInbox action
    · rw [if_neg same, if_neg fun other => same (other.symm.trans winds.number)]
      exact winds
  closed charge known ending member := by
    obtain ⟨reason, same, fate⟩ := windsUp.closed charge known ending member
    refine ⟨reason, same, ?_⟩
    rw [Charge.came_concat, Action.onInbox]
    split
    · exact fate.onInbox action
    · exact fate
  silent := windsUp.silent

/-- What no peer does leaves what has come. -/
theorem WindsUp.goesOn (windsUp : WindsUp plan begun later since shift) {action : Action}
    (noAct : ∀ number inbox, action.onInbox number inbox = inbox) :
    WindsUp plan begun (later ++ [action]) since shift where
  winding := windsUp.winding
  log := windsUp.log
  arrivals := windsUp.arrivals
  limiter := windsUp.limiter
  queued := windsUp.queued
  busy now member := by
    obtain ⟨charge, known, winds⟩ := windsUp.busy now member
    exact ⟨charge, known, by rwa [Charge.came_concat, noAct]⟩
  closed charge known ending member := by
    obtain ⟨reason, same, fate⟩ := windsUp.closed charge known ending member
    exact ⟨reason, same, by rwa [Charge.came_concat, noAct]⟩
  silent := windsUp.silent

/-- Whatever happens. -/
theorem WindsUp.perform (windsUp : WindsUp plan begun later since shift)
    (tidy : ∀ charge ∈ begun.charges, charge.IsTidy) (began : Faithful plan peers begun)
    {peersNow : List Inbox} (faithful : Faithful plan peersNow shift) (action : Action) :
    ∃ more, WindsUp plan begun (later ++ [action]) (since ++ more) (shift.perform plan action) := by
  have once : (begun.charges.map Charge.number).Nodup :=
    (List.nodup_append.mp (List.nodup_append.mp
      (began.accounted.nodup_iff.mpr List.nodup_range)).1).1
  cases own : action.isOfPeer with
  | true =>
      cases action with
      | submit inbox =>
          obtain ⟨more, submitted⟩ := windsUp.submit began inbox
          exact ⟨more, submitted.goesOn fun _ _ => rfl⟩
      | act number action => exact ⟨[], by rw [List.append_nil]; exact windsUp.act number action⟩
      | take | read | send | lose | beginShutdown | heed | abort | conclude => cases own
  | false =>
      obtain ⟨more, moved⟩ := windsUp.moves tidy once faithful (moves_perform own)
      exact ⟨more, moved.goesOn fun number inbox => Action.onInbox_of_own own number inbox⟩

/-- A shutdown begins. -/
theorem windsUp_beginShutdown (running : shift.phase = .running)
    (faithful : Faithful plan peers shift) : WindsUp plan shift [] [] shift.beginShutdown := by
  have begun : shift.beginShutdown
      = { shift with duties := shift.duties.map (Duty.onCharge Charge.signal), phase := .draining } :=
    if_pos running
  rw [begun]
  refine ⟨nofun, (List.append_nil _).symm, Nat.le_refl _, .nil _, fun entry member known => ?_,
    fun now member => ?_, fun _ _ _ member => absurd member List.not_mem_nil, fun _ _ => ⟨rfl, rfl⟩⟩
  · have distinct := (List.nodup_append.mp (faithful.accounted.nodup_iff.mpr List.nodup_range)).1
    exact List.disjoint_of_nodup_append distinct known (List.mem_map.mpr ⟨entry, member, rfl⟩)
  · rw [charges, charges_map_onCharge] at member
    obtain ⟨charge, has, rfl⟩ := List.mem_map.mp member
    obtain ⟨worker, busy⟩ := exists_worker has
    obtain ⟨goesOn, _⟩ := faithful.busy busy
    exact ⟨charge, has, Charge.winds_signal goesOn⟩

/-- Workers reply to a line before they begin another one. -/
def IsTidy (shift : Shift) : Prop := ∀ charge ∈ shift.charges, charge.IsTidy

theorem IsTidy.moves (tidy : shift.IsTidy) (faithful : Faithful plan peers shift) {after : Shift}
    (moves : shift.Moves plan after) : after.IsTidy := by
  have replaced {next : Charge} {worker : Nat} (present : worker < shift.duties.length)
      (isTidy : next.IsTidy) {charge : Charge}
      (member : charge ∈ (shift.duties.set worker (.after next)).filterMap Duty.charge?) :
      charge.IsTidy := by
    have perm := charges_set_perm present (.after next)
    rw [Duty.charge?_after] at perm
    rcases List.mem_append.mp (perm.mem_iff.mp member) with isNext | isOther
    · split at isNext
      · cases isNext
      · exact List.mem_singleton.mp isNext ▸ isTidy
    · obtain ⟨duty, held, isCharge⟩ := List.mem_filterMap.mp isOther
      exact tidy charge (List.mem_filterMap.mpr ⟨duty, List.mem_of_mem_eraseIdx held, isCharge⟩)
  cases moves with
  | rests | concludes => exact tidy
  | @works worker now next limiter events has step =>
      obtain ⟨goesOn, _⟩ := faithful.busy has
      have isOpen (ready : now.unsent = []) : now.session.isOver = false := by
        simpa [Charge.isDone, ready] using goesOn
      have isTidy := step.isTidy (tidy now (mem_charges has)) isOpen
      exact fun charge member => replaced (List.getElem?_eq_some_iff.mp has).1 isTidy member
  | @takes worker number inbox rest idle queue =>
      have isTidy (stopping : Bool) : (Charge.opening stopping number inbox).IsTidy :=
        ⟨rfl, fun unsent => absurd rfl unsent⟩
      exact fun charge member =>
        replaced (List.getElem?_eq_some_iff.mp idle).1 (isTidy _) member
  | @stops worker idle =>
      have present := (List.getElem?_eq_some_iff.mp idle).1
      have perm := (charges_set_perm present .stopped).trans (charges_perm idle).symm
      exact fun charge member => tidy charge (perm.mem_iff.mp member)
  | begins =>
      intro charge member
      rw [charges, charges_map_onCharge] at member
      obtain ⟨before, has, rfl⟩ := List.mem_map.mp member
      obtain ⟨reachable, replies⟩ := tidy before has
      unfold Charge.signal Session.signal
      split
      · exact ⟨reachable, replies⟩
      · exact ⟨reachable, replies⟩

theorem IsTidy.perform (tidy : shift.IsTidy) (faithful : Faithful plan peers shift)
    (action : Action) : (shift.perform plan action).IsTidy := by
  cases own : action.isOfPeer with
  | true =>
      cases action with
      | submit inbox =>
          have same : (shift.submit plan inbox).charges = shift.charges := by
            unfold Shift.submit
            split <;> rfl
          exact fun charge member => tidy charge (same ▸ member)
      | act number action =>
          intro charge member
          have member : charge ∈ (shift.act number action).charges := member
          rw [charges, Shift.act, charges_map_onCharge] at member
          obtain ⟨before, has, rfl⟩ := List.mem_map.mp member
          obtain ⟨reachable, replies⟩ := tidy before has
          unfold Charge.onPeer
          split
          · exact ⟨reachable, replies⟩
          · exact ⟨reachable, replies⟩
      | take | read | send | lose | beginShutdown | heed | abort | conclude => cases own
  | false => exact tidy.moves faithful (moves_perform own)

theorem isTidy_run (plan : Plan) (actions : List Action) : (run plan actions).IsTidy := by
  induction actions using List.reverseRecOn with
  | nil =>
      intro charge member
      obtain ⟨duty, isFresh, isCharge⟩ := List.mem_filterMap.mp member
      rw [List.eq_of_mem_replicate isFresh] at isCharge
      cases isCharge
  | append_singleton earlier action inductionHypothesis =>
      rw [run, Shift.after, List.foldl_append]
      exact inductionHypothesis.perform (faithful_run plan earlier) action

/-- The course of a shutdown that begins after any run. -/
theorem exists_windsUp (plan : Plan) (earlier later : List Action)
    (running : (run plan earlier).phase = .running) :
    ∃ since, WindsUp plan (run plan earlier) later since
      ((run plan earlier).beginShutdown.after plan later) := by
  have began := faithful_run plan earlier
  have begins := faithful_run plan (earlier ++ [.beginShutdown])
  induction later using List.reverseRecOn with
  | nil => exact ⟨[], windsUp_beginShutdown running began⟩
  | append_singleton front action inductionHypothesis =>
      obtain ⟨since, windsUp⟩ := inductionHypothesis
      have begun : run plan (earlier ++ [.beginShutdown]) = (run plan earlier).beginShutdown :=
        List.foldl_append
      rw [begun] at begins
      obtain ⟨more, further⟩ :=
        windsUp.perform (isTidy_run plan earlier) began (begins.after front) action
      exact ⟨since ++ more, by rwa [Shift.after, List.foldl_append]⟩

end Course

end Shift

end AdmissionControl
