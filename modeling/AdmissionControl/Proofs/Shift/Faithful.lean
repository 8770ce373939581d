import AdmissionControl.Proofs.Shift.Accounts

/-!
# A shift is faithful to its peers

Every action keeps the log faithful to what the peers did, so it is so after every run.
-/

namespace AdmissionControl.Shift

open Pool (Plan)

/-- What the peers have done in all, in the order of their connections, after an action. -/
def Action.onPeers (peers : List Inbox) : Action → List Inbox
  | .submit inbox => peers ++ [inbox]
  | .act number action => peers.modify number action.onInbox
  | .take _ | .read _ | .send _ | .lose _ | .beginShutdown | .heed _ | .abort _ | .conclude => peers

/-- What the peers have done in all after actions. -/
def peersAfter (actions : List Action) : List Inbox := actions.foldl Action.onPeers []

variable {plan : Plan} {peers : List Inbox} {shift : Shift} {worker number : Nat}

theorem faithful_fresh (plan : Plan) : Faithful plan [] (fresh plan) where
  counted := rfl
  waiting _ member := nomatch member
  closed _ member := nomatch member
  unknown _ _ := ⟨rfl, rfl⟩
  limiter := .nil _
  accounted := by
    have none : (fresh plan).charges = [] :=
      List.filterMap_eq_nil_iff.mpr fun duty member => by
        rw [List.eq_of_mem_replicate member]
        rfl
    rw [opened, none]
    exact .nil
  busy has := by cases List.eq_of_mem_replicate (List.mem_of_getElem? has)

/-- An idle worker stops. -/
theorem Faithful.stops (faithful : Faithful plan peers shift)
    (idle : shift.duties[worker]? = some .idle) :
    Faithful plan peers { shift with duties := shift.duties.set worker .stopped } where
  counted := faithful.counted
  waiting := faithful.waiting
  closed := faithful.closed
  unknown := faithful.unknown
  limiter := faithful.limiter
  accounted := by
    have present := (List.getElem?_eq_some_iff.mp idle).1
    have charges := (charges_set_perm present .stopped).trans (charges_perm idle).symm
    exact (((charges.map Charge.number).append_right _).append_right _).trans faithful.accounted
  busy {other charge} has := by
    by_cases same : other = worker
    · rw [same, List.getElem?_set_self (List.getElem?_eq_some_iff.mp idle).1] at has
      cases has
    · rw [List.getElem?_set_ne (Ne.symm same)] at has
      exact faithful.busy has

/-- Workers whose connections change, each in its place, keep their connections. -/
theorem charges_map_onCharge (duties : List Duty) (change : Charge → Charge) :
    (duties.map (Duty.onCharge change)).filterMap Duty.charge?
      = (duties.filterMap Duty.charge?).map change := by
  rw [List.filterMap_map, List.map_filterMap]
  refine List.filterMap_congr fun duty _ => ?_
  cases duty <;> rfl

theorem exists_of_onCharge {duties : List Duty} {change : Charge → Charge} {charge : Charge}
    (has : (duties.map (Duty.onCharge change))[worker]? = some (.busy charge)) :
    ∃ before, duties[worker]? = some (.busy before) ∧ charge = change before := by
  rw [List.getElem?_map] at has
  obtain ⟨duty, found, changed⟩ := Option.map_eq_some_iff.mp has
  cases duty with
  | idle | stopped => cases changed
  | busy before =>
      cases changed
      exact ⟨before, found, rfl⟩

/-- The daemon begins to shut down. -/
theorem Faithful.begins (faithful : Faithful plan peers shift) :
    Faithful plan peers
      { shift with duties := shift.duties.map (Duty.onCharge Charge.signal), phase := .draining } where
  counted := faithful.counted
  waiting := faithful.waiting
  closed := faithful.closed
  unknown := faithful.unknown
  limiter := faithful.limiter
  accounted := by
    have numbers : (shift.charges.map Charge.signal).map Charge.number
        = shift.charges.map Charge.number := by
      rw [List.map_map]
      rfl
    have accounted := faithful.accounted
    rw [opened, ← numbers] at accounted
    rw [opened, charges, charges_map_onCharge]
    exact accounted
  busy has := by
    obtain ⟨before, found, rfl⟩ := exists_of_onCharge has
    obtain ⟨goesOn, peer, known, follows⟩ := faithful.busy found
    exact ⟨before.isDone_signal.trans goesOn, peer, known, follows.signal⟩

theorem closings_map (entries : List (Nat × Inbox)) :
    Closings (entries.map fun entry => Event.closed entry.1 none) := fun event member => by
  obtain ⟨entry, _, rfl⟩ := List.mem_map.mp member
  exact ⟨_, _, rfl⟩

theorem closedIn_map (entries : List (Nat × Inbox)) :
    closedIn (entries.map fun entry => Event.closed entry.1 none) = entries.map Prod.fst := by
  rw [closedIn, List.filterMap_map]
  exact congrFun List.filterMap_eq_map _

/-- The queue is closed. -/
theorem Faithful.concludes (faithful : Faithful plan peers shift) :
    Faithful plan peers
      { shift with
        phase := .stopped
        queue := []
        log := shift.log ++ shift.queue.map fun entry => .closed entry.1 none } := by
  have closings := closings_map shift.queue
  have same (number : Nat) :
      exchangesOn (shift.log ++ shift.queue.map fun entry => .closed entry.1 none) number
          = exchangesOn shift.log number
        ∧ received (shift.log ++ shift.queue.map fun entry => .closed entry.1 none) number
          = received shift.log number := by
    rw [exchangesOn_append, received_append, closings.exchangesOn, closings.received,
      List.append_nil, List.append_nil]
    exact ⟨rfl, rfl⟩
  refine ⟨⟨faithful.counted, fun _ member => absurd member List.not_mem_nil,
    fun number member => ?_, fun number beyond => ?_, ?_⟩, ?_, fun {worker charge} has => ?_⟩
  · rw [(same number).1, (same number).2]
    rw [closedIn_append, closedIn_map] at member
    rcases List.mem_append.mp member with earlier | queued
    · obtain ⟨peer, found, took, missing, sent, why⟩ := faithful.closed number earlier
      exact ⟨peer, found, took, missing, sent,
        why.imp_right (Or.imp_right (List.mem_append_left _))⟩
    · obtain ⟨entry, waits, rfl⟩ := List.mem_map.mp queued
      obtain ⟨found, untaken, unsent⟩ := faithful.waiting entry waits
      rw [untaken, unsent]
      exact ⟨entry.2, found, .answered [] rfl List.nil_prefix, [], rfl, .inl rfl⟩
  · rw [(same number).1, (same number).2]
    exact faithful.unknown number beyond
  · rw [exchanges_append, closings.exchanges, List.append_nil]
    exact faithful.limiter
  · refine .trans ?_ faithful.accounted
    rw [closedIn_append, closedIn_map, opened, opened, List.map_nil, List.append_nil,
      List.append_assoc]
    exact List.perm_append_comm.append_left _
  · rw [Attends, (same charge.number).1, (same charge.number).2]
    exact faithful.busy has

/-- Whatever happens by itself. -/
theorem Faithful.moves (faithful : Faithful plan peers shift) {after : Shift}
    (moves : shift.Moves plan after) : Faithful plan peers after := by
  cases moves with
  | rests => exact faithful
  | works has step => exact faithful.works has step
  | @takes worker number inbox rest idle queue =>
      obtain ⟨found, untaken, unsent⟩ := faithful.waiting (number, inbox) (queue ▸ List.mem_cons_self)
      refine (faithful.butQueued idle queue).settle rfl found ?_
      change Charge.Follows _ _ (exchangesOn shift.log number) (received shift.log number) _
      rw [untaken, unsent]
      exact Charge.follows_opening _ _ _
  | stops idle => exact faithful.stops idle
  | begins => exact faithful.begins
  | concludes => exact faithful.concludes

/-- Connections that are known stay so when there is one more. -/
theorem getElem?_concat_of_some {number : Nat} {inbox peer : Inbox}
    (found : peers[number]? = some peer) : (peers ++ [inbox])[number]? = some peer := by
  obtain ⟨known, rfl⟩ := List.getElem?_eq_some_iff.mp found
  rw [List.getElem?_append_left known, List.getElem?_eq_getElem known]

/-- A submitted connection is queued, or closed untold. -/
theorem Faithful.submit (faithful : Faithful plan peers shift) (inbox : Inbox) :
    Faithful plan (peers ++ [inbox]) (shift.submit plan inbox) := by
  have counted : shift.arrivals + 1 = (peers ++ [inbox]).length := by
    rw [List.length_append, faithful.counted]
    rfl
  have newest : (peers ++ [inbox])[shift.arrivals]? = some inbox := by
    rw [faithful.counted, List.getElem?_concat_length]
  have untold := faithful.unknown shift.arrivals (Nat.le_of_eq faithful.counted.symm)
  have unknown (number : Nat) (beyond : (peers ++ [inbox]).length ≤ number) :=
    faithful.unknown number (by rw [List.length_append] at beyond; omega)
  have accounted : (shift.opened ++ closedIn shift.log ++ [shift.arrivals]).Perm
      (List.range (shift.arrivals + 1)) :=
    (faithful.accounted.append_right _).trans (.of_eq List.range_succ.symm)
  unfold Shift.submit
  split
  · refine ⟨⟨counted, fun entry member => ?_, fun number member => ?_, unknown, faithful.limiter⟩,
      ?_, fun {worker charge} has => ?_⟩
    · rcases List.mem_append.mp member with earlier | last
      · obtain ⟨found, told⟩ := faithful.waiting entry earlier
        exact ⟨getElem?_concat_of_some found, told⟩
      · rw [List.mem_singleton.mp last]
        exact ⟨newest, untold⟩
    · obtain ⟨peer, found, told⟩ := faithful.closed number member
      exact ⟨peer, getElem?_concat_of_some found, told⟩
    · refine .trans ?_ accounted
      rw [opened, List.map_append, opened, ← List.append_assoc, List.append_assoc,
        List.append_assoc (_ ++ _)]
      exact List.perm_append_comm.append_left _
    · obtain ⟨goesOn, peer, found, follows⟩ := faithful.busy has
      exact ⟨goesOn, peer, getElem?_concat_of_some found, follows⟩
  · have closings : Closings [.closed shift.arrivals none] := fun event member =>
      ⟨_, _, List.mem_singleton.mp member⟩
    have same (number : Nat) :
        exchangesOn (shift.log ++ [.closed shift.arrivals none]) number
            = exchangesOn shift.log number
          ∧ received (shift.log ++ [.closed shift.arrivals none]) number
            = received shift.log number := by
      rw [exchangesOn_append, received_append, closings.exchangesOn, closings.received,
        List.append_nil, List.append_nil]
      exact ⟨rfl, rfl⟩
    refine ⟨⟨counted, fun entry member => ?_, fun number member => ?_, fun number beyond => ?_, ?_⟩,
      ?_, fun {worker charge} has => ?_⟩
    · rw [(same entry.1).1, (same entry.1).2]
      obtain ⟨found, told⟩ := faithful.waiting entry member
      exact ⟨getElem?_concat_of_some found, told⟩
    · rw [(same number).1, (same number).2]
      rw [closedIn_append] at member
      rcases List.mem_append.mp member with earlier | own
      · obtain ⟨peer, found, took, missing, sent, why⟩ := faithful.closed number earlier
        exact ⟨peer, getElem?_concat_of_some found, took, missing, sent,
          why.imp_right (Or.imp_right (List.mem_append_left _))⟩
      · obtain rfl := List.mem_singleton.mp own
        rw [untold.1, untold.2]
        exact ⟨inbox, newest, .answered [] rfl List.nil_prefix, [], rfl, .inl rfl⟩
    · rw [(same number).1, (same number).2]
      exact unknown number beyond
    · rw [exchanges_append, closings.exchanges, List.append_nil]
      exact faithful.limiter
    · rw [closedIn_append]
      refine .trans (.of_eq ?_) accounted
      exact (List.append_assoc _ _ _).symm
    · rw [Attends, (same charge.number).1, (same charge.number).2]
      obtain ⟨goesOn, peer, found, follows⟩ := faithful.busy has
      exact ⟨goesOn, peer, getElem?_concat_of_some found, follows⟩

theorem number_onPeer (number : Nat) (action : PeerAction) (charge : Charge) :
    (charge.onPeer number action).number = charge.number := by
  unfold Charge.onPeer
  split <;> rfl

theorem isDone_onPeer (number : Nat) (action : PeerAction) (charge : Charge) :
    (charge.onPeer number action).isDone = charge.isDone := by
  unfold Charge.onPeer
  split <;> rfl

/-- What the peer of a connection does. -/
theorem Faithful.act (faithful : Faithful plan peers shift) (number : Nat) (action : PeerAction) :
    Faithful plan (peers.modify number action.onInbox) (shift.act number action) := by
  have of_ne {other : Nat} (different : number ≠ other) :
      (peers.modify number action.onInbox)[other]? = peers[other]? :=
    List.getElem?_modify_ne _ _ different
  have own {peer : Inbox} (found : peers[number]? = some peer) :
      (peers.modify number action.onInbox)[number]? = some (action.onInbox peer) := by
    rw [List.getElem?_modify_eq, found]
    rfl
  refine ⟨⟨?_, fun entry member => ?_, fun other member => ?_, fun other beyond => ?_,
    faithful.limiter⟩, ?_, fun {worker charge} has => ?_⟩
  · rw [List.length_modify]
    exact faithful.counted
  · obtain ⟨before, waits, rfl⟩ := List.mem_map.mp member
    obtain ⟨found, told⟩ := faithful.waiting before waits
    split
    · next same => exact ⟨own (same ▸ found), same ▸ told⟩
    · next different => exact ⟨(of_ne (Ne.symm different)).trans found, told⟩
  · obtain ⟨peer, found, told⟩ := faithful.closed other member
    by_cases same : number = other
    · subst same
      exact ⟨_, own found, told.onInbox action⟩
    · exact ⟨peer, (of_ne same).trans found, told⟩
  · rw [List.length_modify] at beyond
    exact faithful.unknown other beyond
  · have numbers : (shift.act number action).opened = shift.opened := by
      have same : Charge.number ∘ Charge.onPeer number action = Charge.number :=
        funext (number_onPeer number action)
      rw [opened, charges, Shift.act, charges_map_onCharge, List.map_map, same]
      exact congrArg (_ ++ ·) (Pool.map_fst_onInbox number action shift.queue)
    rw [numbers]
    exact faithful.accounted
  · obtain ⟨before, present, rfl⟩ := exists_of_onCharge has
    obtain ⟨goesOn, peer, found, follows⟩ := faithful.busy present
    refine ⟨(isDone_onPeer number action before).trans goesOn, ?_⟩
    rw [number_onPeer]
    unfold Charge.onPeer
    split
    · next same => exact ⟨_, same ▸ own (same ▸ found), follows.onInbox action⟩
    · next different => exact ⟨peer, (of_ne (Ne.symm different)).trans found, follows⟩

/-- One action. -/
theorem Faithful.perform (faithful : Faithful plan peers shift) (action : Action) :
    Faithful plan (action.onPeers peers) (shift.perform plan action) := by
  cases action with
  | submit inbox => exact faithful.submit inbox
  | act number action => exact faithful.act number action
  | take | read | send | lose | beginShutdown | heed | abort | conclude =>
      exact faithful.moves (moves_perform rfl)

/-- Further actions. -/
theorem Faithful.after (faithful : Faithful plan peers shift) (actions : List Action) :
    Faithful plan (actions.foldl Action.onPeers peers) (shift.after plan actions) := by
  induction actions generalizing peers shift with
  | nil => exact faithful
  | cons action rest inductionHypothesis => exact inductionHypothesis (faithful.perform action)

/-- Any actions. -/
theorem faithful_run (plan : Plan) (actions : List Action) :
    Faithful plan (peersAfter actions) (run plan actions) :=
  (faithful_fresh plan).after actions

end AdmissionControl.Shift
