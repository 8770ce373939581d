import AdmissionControl.Proofs.Shift.Showing

/-!
# A pool that shuts down and its workers

A shutdown of a pool is one in which every worker hears of it, or is stopped, before anything else
happens. So the runs of a pool are runs of its workers, whatever is done to it.
-/

namespace AdmissionControl

namespace Duty

/-- What a worker has to do once it takes no further connection. -/
def windUp (change : Charge → Charge) : Duty → Duty
  | .idle | .stopped => .stopped
  | .busy charge => .after (change charge)

/-- What is told of it then. -/
def closing (change : Charge → Charge) : Duty → List Shift.Event
  | .idle | .stopped => []
  | .busy charge =>
      if (change charge).isDone then
        [.closed (change charge).number (change charge).session.ending]
      else []

end Duty

namespace Shift

open Pool (Plan)

variable {plan : Plan} {shift : Shift} {pool : Pool} {worker number : Nat}

section Winding

variable {change : Charge → Charge}

/-- All workers wind up, one after the other. -/
theorem reaches_windUp (action : Nat → Action) (own : ∀ worker, (action worker).isOfPeer = false)
    (ready : Duty → Prop)
    (step : ∀ {shift : Shift} {worker : Nat} {duty : Duty}, shift.phase ≠ .running → ready duty →
      shift.duties[worker]? = some duty →
        shift.perform plan (action worker)
          = { shift with
              duties := shift.duties.set worker (duty.windUp change)
              log := shift.log ++ duty.closing change })
    (front rest : List Duty) (winding : shift.phase ≠ .running)
    (split : shift.duties = front ++ rest) (areReady : ∀ duty ∈ rest, ready duty) :
    shift.Reaches plan
      { shift with
        duties := front ++ rest.map (Duty.windUp change)
        log := shift.log ++ rest.flatMap (Duty.closing change) } := by
  induction rest generalizing shift front with
  | nil =>
      rw [List.append_nil] at split
      rw [List.map_nil, List.flatMap_nil, List.append_nil, List.append_nil, ← split]
      exact .refl plan shift
  | cons duty rest inductionHypothesis =>
      have found : shift.duties[front.length]? = some duty := by
        rw [split, List.getElem?_append_right (Nat.le_refl _), Nat.sub_self]
        rfl
      have performed := step winding (areReady duty List.mem_cons_self) found
      have first : shift.Reaches plan (shift.perform plan (action front.length)) :=
        reaches_perform _ (own _)
      rw [performed] at first
      refine first.trans ?_
      have replaced : shift.duties.set front.length (duty.windUp change)
          = front ++ [duty.windUp change] ++ rest := by
        rw [split, List.set_append_right _ _ (Nat.le_refl _), Nat.sub_self, List.append_assoc]
        rfl
      let next : Shift := { shift with
        duties := shift.duties.set front.length (duty.windUp change)
        log := shift.log ++ duty.closing change }
      have stillWinding : next.phase ≠ .running := winding
      have later := inductionHypothesis (front ++ [duty.windUp change]) stillWinding replaced
        fun other member => areReady other (List.mem_cons_of_mem _ member)
      dsimp only [next] at later
      rw [List.append_assoc, List.append_assoc] at later
      exact later

/-- A worker hears of a shutdown. -/
theorem heed_eq_windUp {shift : Shift} {worker : Nat} {duty : Duty} (winding : shift.phase ≠ .running)
    (ready : ∀ charge, duty = .busy charge → charge.unsent = [])
    (found : shift.duties[worker]? = some duty) :
    shift.heed worker
      = { shift with
          duties := shift.duties.set worker (duty.windUp Charge.heed)
          log := shift.log ++ duty.closing Charge.heed } := by
  rw [heed, if_neg winding, found]
  cases duty with
  | idle => simp only [Duty.windUp, Duty.closing, List.append_nil]
  | stopped =>
      obtain ⟨present, same⟩ := List.getElem?_eq_some_iff.mp found
      simp only [Duty.windUp, Duty.closing, List.append_nil, ← same, List.set_getElem_self]
  | busy charge => exact if_pos (ready charge rfl)

/-- A worker is stopped. -/
theorem abort_eq_windUp {shift : Shift} {worker : Nat} {duty : Duty} (winding : shift.phase ≠ .running)
    (found : shift.duties[worker]? = some duty) :
    shift.abort worker
      = { shift with
          duties := shift.duties.set worker (duty.windUp (Charge.giveUp · .aborted))
          log := shift.log ++ duty.closing (Charge.giveUp · .aborted) } := by
  rw [abort, if_neg winding, found]
  cases duty with
  | idle => simp only [Duty.windUp, Duty.closing, List.append_nil]
  | stopped =>
      obtain ⟨present, same⟩ := List.getElem?_eq_some_iff.mp found
      simp only [Duty.windUp, Duty.closing, List.append_nil, ← same, List.set_getElem_self]
  | busy charge => rfl

/-- The connections of workers that wind up. -/
theorem charges_windUp (duties : List Duty) :
    (duties.map (Duty.windUp change)).filterMap Duty.charge?
      = ((duties.filterMap Duty.charge?).map change).filter (!·.isDone) := by
  induction duties with
  | nil => rfl
  | cons duty rest inductionHypothesis =>
      cases duty with
      | idle | stopped => exact inductionHypothesis
      | busy charge =>
          rw [List.map_cons, List.filterMap_cons, Duty.windUp, Duty.charge?_after]
          cases isDone : (change charge).isDone with
          | true =>
              simp only [if_true, List.filterMap_cons, Duty.charge?, List.map_cons]
              rw [List.filter_cons_of_neg (by simp [isDone])]
              exact inductionHypothesis
          | false =>
              simp only [Bool.false_eq_true, if_false, List.filterMap_cons, Duty.charge?,
                List.map_cons]
              rw [List.filter_cons_of_pos (by simp [isDone]), inductionHypothesis]

/-- What is told when workers wind up. -/
theorem closing_windUp (duties : List Duty) :
    duties.flatMap (Duty.closing change)
      = (((duties.filterMap Duty.charge?).map change).filter (·.isDone)).map fun charge =>
          .closed charge.number charge.session.ending := by
  induction duties with
  | nil => rfl
  | cons duty rest inductionHypothesis =>
      cases duty with
      | idle | stopped => exact inductionHypothesis
      | busy charge =>
          rw [List.flatMap_cons, inductionHypothesis]
          simp only [Duty.closing, List.filterMap_cons, Duty.charge?, List.map_cons]
          cases isDone : (change charge).isDone with
          | true => rw [if_pos rfl, List.filter_cons_of_pos isDone]; rfl
          | false => rw [if_neg Bool.false_ne_true, List.filter_cons_of_neg (by simp [isDone])]; rfl

/-- No worker waits for a connection after it. -/
theorem idle_notMem_windUp {duties : List Duty}
    (stops : ∀ charge ∈ duties.filterMap Duty.charge?, Duty.after (change charge) ≠ .idle) :
    .idle ∉ duties.map (Duty.windUp change) := by
  intro member
  obtain ⟨duty, present, same⟩ := List.mem_map.mp member
  cases duty with
  | idle | stopped => cases same
  | busy charge => exact stops charge (List.mem_filterMap.mpr ⟨_, present, rfl⟩) same

end Winding

/-- Events that close connections and those of a pool that closes the same. -/
theorem tells_closings {events : List Event} {shown : List Pool.Event} (closings : Closings events)
    (silent : Pool.Closings shown) (same : (closedIn events).Perm (shown.filterMap Crew.closed?)) :
    Tells events shown where
  taken := by
    rw [List.filterMap_eq_nil_iff.mpr, List.filterMap_eq_nil_iff.mpr]
    · intro event member
      obtain ⟨_, _, rfl⟩ := silent event member
      rfl
    · intro event member
      obtain ⟨_, _, rfl⟩ := closings event member
      rfl
  received number := by
    rw [closings.received]
    refine (List.flatMap_eq_nil_iff.mpr fun event member => ?_).symm
    obtain ⟨_, _, rfl⟩ := silent event member
    rfl
  closed := same

/-- Workers that wind up, each with what it is to do with its connection, come to where the pool is
after all its sessions have changed. -/
theorem shows_windUp {change : Charge → Charge} {changeSession : Session → Session}
    {taken : Nat × Session → Charge} (arrivals : shift.arrivals = pool.arrivals)
    (queue : shift.queue = pool.queue) (limiter : shift.limiter = pool.limiter)
    {phase : Pool.Phase} (samePhase : shift.phase = phase)
    (charges : shift.charges.Perm (pool.serving.map taken)) (log : Tells shift.log pool.log)
    (same : ∀ entry ∈ pool.serving, change (taken entry) = .of (entry.1, changeSession entry.2)) :
    Shows
      { shift with
        duties := shift.duties.map (Duty.windUp change)
        log := shift.log ++ shift.duties.flatMap (Duty.closing change) }
      { pool.changeSessions changeSession with phase } := by
  let changed := pool.serving.map fun entry => (entry.1, changeSession entry.2)
  have isDone : (fun entry : Nat × Session => (Charge.of entry).isDone)
      = fun entry => entry.2.isOver := funext fun entry => Bool.and_true _
  have afterwards : (shift.charges.map change).Perm (changed.map Charge.of) := by
    refine (charges.map change).trans (.of_eq ?_)
    rw [List.map_map, List.map_map]
    exact List.map_congr_left same
  refine ⟨arrivals, queue, limiter, samePhase, ?_, log.append (tells_closings ?_ ?_ ?_)⟩
  · rw [Shift.charges, charges_windUp]
    refine (afterwards.filter _).trans (.of_eq ?_)
    rw [List.filter_map]
    refine congrArg (List.map Charge.of) (List.filter_congr fun entry _ => ?_)
    exact congrArg (!·) (congrFun isDone entry)
  · rw [closing_windUp]
    intro event member
    obtain ⟨charge, _, rfl⟩ := List.mem_map.mp member
    exact ⟨_, _, rfl⟩
  · intro event member
    obtain ⟨entry, _, rfl⟩ := List.mem_map.mp member
    exact ⟨_, _, rfl⟩
  · rw [closing_windUp]
    have closed : closedIn (((shift.charges.map change).filter (·.isDone)).map fun charge =>
        .closed charge.number charge.session.ending)
        = ((shift.charges.map change).filter (·.isDone)).map Charge.number := by
      rw [closedIn, List.filterMap_map]
      exact congrFun List.filterMap_eq_map _
    refine (List.Perm.of_eq closed).trans (((afterwards.filter _).map Charge.number).trans (.of_eq ?_))
    rw [List.filter_map, List.map_map, List.filterMap_map]
    refine Eq.trans ?_ (congrFun List.filterMap_eq_map _).symm
    exact congrArg (List.map Prod.fst) (List.filter_congr fun entry _ => congrFun isDone entry)

section Ending

/-- The workers of a pool that shuts down: none of them waits for a connection. -/
structure Winds (pool : Pool) (shift : Shift) : Prop extends shift.Shows pool where
  winding : shift.phase ≠ .running
  noIdle : .idle ∉ shift.duties

/-- Once nothing is waited for, a shutdown returns; so it does in the pool. -/
theorem Winds.proceed (plan : Plan) (winds : shift.Winds pool) :
    ∃ last, shift.Reaches plan last ∧ last.Winds (pool.proceed plan) := by
  have running : shift.running = pool.serving.length := by
    have count : shift.running = shift.charges.length := by
      rw [Shift.running, Shift.charges, List.length_filterMap_eq_countP]
      refine List.countP_congr fun duty member => ?_
      cases duty with
      | idle => exact absurd member winds.noIdle
      | stopped | busy => simp [Duty.charge?]
    rw [count, winds.charges.length_eq, List.length_map]
  have returns (draining : pool.phase = .draining) (none : pool.serving = []) :
      ∃ last, shift.Reaches plan last
        ∧ last.Winds { pool.turnAway pool.queue with queue := [], phase := .stopped } := by
    have isOver : shift.phase = .draining ∧ shift.running = 0 :=
      ⟨winds.phase.trans draining, running.trans (congrArg List.length none)⟩
    have concludes : shift.Reaches plan shift.conclude := reaches_perform .conclude rfl
    rw [conclude, if_pos isOver] at concludes
    have stopped : Pool.Phase.stopped ≠ .running := by simp
    refine ⟨_, concludes, ⟨winds.arrivals, rfl, winds.limiter, rfl, winds.charges, ?_⟩, stopped,
      winds.noIdle⟩
    refine winds.log.append (tells_closings (closings_map _) ?_ (.of_eq ?_))
    · intro event member
      obtain ⟨entry, _, rfl⟩ := List.mem_map.mp member
      exact ⟨_, _, rfl⟩
    · rw [closedIn_map, winds.queue, List.filterMap_map]
      exact (congrFun List.filterMap_eq_map _).symm
  unfold Pool.proceed
  split
  · next isRunning => exact absurd (winds.phase.trans isRunning) winds.winding
  · next draining =>
    split
    · next empty => exact returns draining (List.isEmpty_iff.mp empty)
    · exact ⟨shift, .refl plan shift, winds⟩
  · exact ⟨shift, .refl plan shift, winds⟩

/-- The connections of a pool are open. -/
theorem isOpen_of_serving {peers : List Inbox} (faithful : Pool.Faithful plan peers pool)
    {entry : Nat × Session} (member : entry ∈ pool.serving) : entry.2.isOver = false := by
  obtain ⟨_, _, attends⟩ := faithful.served entry member
  obtain ⟨_, _, current⟩ := attends.current
  exact current.isOpen

/-- A worker whose session stops takes no further connection. -/
theorem after_of_stop {entry : Nat × Session} (isOpen : entry.2.isOver = false) :
    Duty.after (.of (entry.1, entry.2.stop)) ≠ .idle := by
  have signaled : entry.2.signal = { entry.2 with stopping := true } :=
    if_neg (by simp [isOpen])
  unfold Duty.after
  split
  · next isDone =>
    have isOver : entry.2.stop.isOver = true := (Bool.and_true _).symm.trans isDone
    have ending : entry.2.stop.ending = some .shutDown := by
      revert isOver
      unfold Session.stop Session.heed
      rw [signaled]
      split
      · intro isOver
        cases isOpen.symm.trans isOver
      · exact fun _ => rfl
    have same : (Charge.of (entry.1, entry.2.stop)).session.ending = some .shutDown := ending
    rw [same]
    exact nofun
  · exact nofun

/-- A worker that waits for a connection hears of the shutdown. -/
theorem Shows.reaches_noIdle (plan : Plan) (shown : shift.Shows pool) (winding : shift.phase ≠ .running)
    {duties : List Duty} {duty : Duty} (noOther : .idle ∉ duties)
    (present : worker < duties.length) (split : shift.duties = duties.set worker duty) :
    ∃ last, shift.Reaches plan last ∧ last.Winds pool := by
  have kept {rest : List Duty} (new : Duty) (isNew : new ≠ .idle)
      (same : rest = duties.set worker new) : .idle ∉ rest := fun member =>
    (List.mem_or_eq_of_mem_set (same ▸ member)).elim noOther isNew.symm
  have found : shift.duties[worker]? = some duty := by
    rw [split, List.getElem?_set_self present]
  cases duty with
  | busy charge =>
      have noIdle : .idle ∉ shift.duties := kept (.busy charge) nofun split
      exact ⟨shift, .refl plan shift, shown, winding, noIdle⟩
  | stopped =>
      have noIdle : .idle ∉ shift.duties := kept .stopped nofun split
      exact ⟨shift, .refl plan shift, shown, winding, noIdle⟩
  | idle =>
      have heeds : shift.Reaches plan (shift.heed worker) := reaches_perform (.heed worker) rfl
      have heard : shift.heed worker = { shift with duties := shift.duties.set worker .stopped } := by
        rw [heed, if_neg winding, found]
      rw [heard] at heeds
      refine ⟨_, heeds, ⟨shown.arrivals, shown.queue, shown.limiter, shown.phase, ?_, shown.log⟩,
        winding, kept .stopped nofun ?_⟩
      · have still := (List.getElem?_eq_some_iff.mp found).1
        exact ((charges_set_perm still .stopped).trans (charges_perm found).symm).trans shown.charges
      · rw [split, List.set_set]

/-- A shutdown has nothing to do with what the peer can receive. -/
theorem stop_withReachable (session : Session) (reachable : Bool) :
    ({ session with reachable } : Session).stop = { session.stop with reachable }
      ∧ session.stop.reachable = session.reachable := by
  have signaled (session : Session) (isOpen : session.isOver = false) :
      session.signal = { session with stopping := true } := if_neg (by simp [isOpen])
  cases isOver : session.isOver with
  | true =>
      have same (session : Session) (isOver : session.isOver = true) : session.stop = session := by
        rw [Session.stop, Session.signal, if_pos isOver, Session.heed, isOver]
        rfl
      rw [same session isOver, same { session with reachable } isOver]
      exact ⟨rfl, rfl⟩
  | false =>
      rw [Session.stop, Session.stop, signaled session isOver,
        signaled { session with reachable } isOver, Session.heed, Session.heed]
      have noEnding : session.ending.isSome = false := isOver
      cases session.partialLine <;> simp [Session.isOver, noEnding]

/-- A session stops as its worker hears of the shutdown. -/
theorem heed_signal_of (entry : Nat × Session) :
    (Charge.of entry).signal.heed = .of (entry.1, entry.2.stop) := by
  obtain ⟨stops, samePeer⟩ := stop_withReachable entry.2 true
  rw [Charge.of, Charge.of, samePeer, ← stops]
  rfl

/-- A session is given up as its worker is stopped. -/
theorem giveUp_of {entry : Nat × Session} (isOpen : entry.2.isOver = false) :
    (Charge.of entry).giveUp .aborted = .of (entry.1, entry.2.abort) := by
  have aborts : entry.2.abort = { entry.2 with partialLine := [], ending := some .aborted } :=
    if_neg (by simp [isOpen])
  rw [aborts]
  rfl

/-- The daemon begins to shut down, and every worker hears of it. -/
theorem Rests.beginShutdown (rests : shift.Rests plan pool) {peers : List Inbox}
    (faithful : Pool.Faithful plan peers pool) :
    ∃ last, shift.Reaches plan last ∧ last.Winds (pool.beginShutdown plan) := by
  have running : pool.phase = .running := rests.phase.symm.trans rests.running
  let begun := shift.beginShutdown
  have begins : shift.Reaches plan begun := reaches_perform .beginShutdown rfl
  have begunEq : begun
      = { shift with duties := shift.duties.map (Duty.onCharge Charge.signal), phase := .draining } :=
    if_pos rests.running
  have phase : begun.phase = .draining := begunEq ▸ rfl
  have winding : begun.phase ≠ .running := by simp [phase]
  have charges : begun.charges.Perm (pool.serving.map fun entry => (Charge.of entry).signal) := by
    rw [begunEq, Shift.charges, charges_map_onCharge]
    exact (rests.charges.map _).trans (.of_eq List.map_map)
  have served {charge : Charge} (member : charge ∈ begun.duties.filterMap Duty.charge?) :
      ∃ entry ∈ pool.serving, (Charge.of entry).signal = charge :=
    List.mem_map.mp (charges.mem_iff.mp member)
  let wound : Shift := { begun with
    duties := begun.duties.map (Duty.windUp Charge.heed)
    log := begun.log ++ begun.duties.flatMap (Duty.closing Charge.heed) }
  have winds : begun.Reaches plan wound := by
    refine reaches_windUp .heed (fun _ => rfl) _ heed_eq_windUp [] begun.duties winding rfl
      fun duty member charge busy => ?_
    obtain ⟨entry, _, rfl⟩ := served (List.mem_filterMap.mpr ⟨duty, member, by rw [busy]; rfl⟩)
    rfl
  have shown : wound.Shows { pool.changeSessions Session.stop with phase := .draining } :=
    shows_windUp (begunEq ▸ rests.arrivals) (begunEq ▸ rests.queue) (begunEq ▸ rests.limiter) phase
      charges (begunEq ▸ rests.log) fun entry _ => heed_signal_of entry
  have noIdle : .idle ∉ wound.duties := by
    refine idle_notMem_windUp fun charge member => ?_
    obtain ⟨entry, isServed, rfl⟩ := served member
    rw [heed_signal_of]
    exact after_of_stop (isOpen_of_serving faithful isServed)
  obtain ⟨last, reaches, ends⟩ := Winds.proceed plan ⟨shown, winding, noIdle⟩
  refine ⟨last, (begins.trans winds).trans reaches, ?_⟩
  unfold Pool.beginShutdown
  rw [running]
  exact ends

/-- The time for a shutdown is over, and every worker is stopped. -/
theorem Winds.endShutdown (winds : shift.Winds pool) {peers : List Inbox}
    (faithful : Pool.Faithful plan peers pool) :
    ∃ last, shift.Reaches plan last ∧ last.Winds (pool.endShutdown plan) := by
  unfold Pool.endShutdown
  split
  · next draining =>
    let wound : Shift := { shift with
      duties := shift.duties.map (Duty.windUp (Charge.giveUp · .aborted))
      log := shift.log ++ shift.duties.flatMap (Duty.closing (Charge.giveUp · .aborted)) }
    have aborts : shift.Reaches plan wound :=
      reaches_windUp .abort (fun _ => rfl) (fun _ => True)
        (fun winding _ found => abort_eq_windUp winding found) [] shift.duties winds.winding rfl
        fun _ _ => trivial
    have phase : shift.phase = (pool.changeSessions Session.abort).phase := winds.phase
    have shown : wound.Shows (pool.changeSessions Session.abort) :=
      shows_windUp winds.arrivals winds.queue winds.limiter phase winds.charges winds.log
        fun entry member => giveUp_of (isOpen_of_serving faithful member)
    have noIdle : .idle ∉ wound.duties := by
      refine idle_notMem_windUp fun charge _ => ?_
      rw [Duty.after, if_pos (Charge.isDone_giveUp charge .aborted)]
      simp [Charge.giveUp]
    obtain ⟨last, reaches, ends⟩ :=
      Winds.proceed plan ⟨shown, winds.winding, noIdle⟩
    exact ⟨last, aborts.trans reaches, ends⟩
  · exact ⟨shift, .refl plan shift, winds⟩

/-- What a peer does while the pool shuts down. -/
theorem Winds.act (winds : shift.Winds pool) {peers : List Inbox}
    (faithful : Pool.Faithful plan peers pool) (number : Nat) (action : PeerAction) :
    ∃ last, (shift.act number action).Reaches plan last
      ∧ last.Winds (pool.act plan number action) := by
  have stillNoIdle : .idle ∉ (shift.act number action).duties :=
    mt mem_map_onCharge.2.mp winds.noIdle
  cases found : pool.serving.lookup number with
  | none =>
      obtain ⟨_, shown⟩ := winds.toShows.act_of_unserved plan found action
      exact ⟨_, .refl plan _, shown, winds.winding, stillNoIdle⟩
  | some session =>
      obtain ⟨worker, events, heard, rfl, has, hears, shown⟩ :=
        winds.toShows.reaches_hear faithful found action
      have present := (List.getElem?_eq_some_iff.mp has).1
      obtain ⟨rested, rests, stillWinds⟩ :=
        shown.reaches_noIdle plan winds.winding stillNoIdle present rfl
      obtain ⟨last, reaches, ends⟩ := stillWinds.proceed plan
      refine ⟨last, (hears.trans rests).trans reaches, ?_⟩
      unfold Pool.act
      rw [found]
      exact ends

end Ending

section Running

/-- A submission to a pool that shuts down is refused. -/
theorem Winds.submit (winds : shift.Winds pool) (inbox : Inbox) :
    (shift.submit plan inbox).Winds (pool.submit plan inbox).pool := by
  have refused : shift.submit plan inbox
      = { shift with
          arrivals := shift.arrivals + 1
          log := shift.log ++ [.closed shift.arrivals none] } := by
    simp [Shift.submit, outcome, winds.winding]
  have same : (pool.submit plan inbox).pool
      = { pool with
          arrivals := pool.arrivals + 1
          log := pool.log ++ [.closed pool.arrivals (!inbox.gone)] } := by
    simp [Pool.submit, ← winds.phase, winds.winding, Pool.turnAway]
  rw [refused, same]
  refine ⟨⟨congrArg (· + 1) winds.arrivals, winds.queue, winds.limiter, winds.phase, winds.charges,
    ?_⟩, winds.winding, winds.noIdle⟩
  rw [winds.arrivals]
  exact winds.log.append (tells_closed ..)

/-- The workers have come to where the pool is, whether it shuts down or not. -/
def Meets (plan : Plan) (pool : Pool) (shift : Shift) : Prop :=
  shift.Rests plan pool ∨ shift.Winds pool

theorem Meets.shows (meets : shift.Meets plan pool) : shift.Shows pool :=
  meets.elim Rests.toShows Winds.toShows

/-- What the peers have to do with an action on a pool. The rest of it the workers do by
themselves. -/
def Action.ofPool : Pool.Action → List Action
  | .submit inbox => [.submit inbox]
  | .act number action => [.act number action]
  | .beginShutdown | .endShutdown | .shutdown _ => []

/-- Whatever is done to a pool, its workers can come to where it is then. -/
theorem Meets.perform (meets : shift.Meets plan pool) {peers : List Inbox}
    (faithful : Pool.Faithful plan peers pool) (action : Pool.Action) :
    ∃ last, (shift.after plan (Action.ofPool action)).Reaches plan last
      ∧ last.Meets plan (pool.perform plan action) := by
  have begins : ∃ last, shift.Reaches plan last ∧ last.Winds (pool.beginShutdown plan) := by
    rcases meets with rests | winds
    · exact rests.beginShutdown faithful
    · have begun : pool.beginShutdown plan = pool := by
        unfold Pool.beginShutdown
        split
        · next running => exact absurd (winds.phase.trans running) winds.winding
        · rfl
      exact ⟨shift, .refl plan shift, begun.symm ▸ winds⟩
  cases action with
  | submit inbox =>
      rcases meets with rests | winds
      · obtain ⟨last, reaches, ends⟩ := rests.submit inbox
        exact ⟨last, reaches, .inl ends⟩
      · exact ⟨_, .refl plan _, .inr (winds.submit inbox)⟩
  | act number action =>
      rcases meets with rests | winds
      · obtain ⟨last, reaches, ends⟩ := rests.act faithful number action
        exact ⟨last, reaches, .inl ends⟩
      · obtain ⟨last, reaches, ends⟩ := winds.act faithful number action
        exact ⟨last, reaches, .inr ends⟩
  | beginShutdown =>
      obtain ⟨last, reaches, ends⟩ := begins
      exact ⟨last, reaches, .inr ends⟩
  | endShutdown =>
      rcases meets with rests | winds
      · have running : pool.phase = .running := rests.phase.symm.trans rests.running
        have same : pool.perform plan .endShutdown = pool := by
          rw [Pool.perform, Pool.endShutdown, running]
        rw [same]
        exact ⟨shift, .refl plan shift, .inl rests⟩
      · obtain ⟨last, reaches, ends⟩ := winds.endShutdown faithful
        exact ⟨last, reaches, .inr ends⟩
  | shutdown milliseconds =>
      obtain ⟨middle, begun, winds⟩ := begins
      obtain ⟨last, ended, ends⟩ := winds.endShutdown faithful.beginShutdown
      exact ⟨last, begun.trans ended, .inr ends⟩

/-- What workers do by themselves is not done by peers. -/
theorem foldl_onPeers_of_own {moves : List Action} (own : ∀ move ∈ moves, move.isOfPeer = false)
    (peers : List Inbox) : moves.foldl Action.onPeers peers = peers := by
  induction moves generalizing peers with
  | nil => rfl
  | cons move rest inductionHypothesis =>
      have same : move.onPeers peers = peers := by
        have first := own move List.mem_cons_self
        cases move with
        | submit | act => cases first
        | take | read | send | lose | beginShutdown | heed | abort | conclude => rfl
      rw [List.foldl_cons, same]
      exact inductionHypothesis (fun other member => own other (List.mem_cons_of_mem _ member)) peers

/-- Every run of a pool is a run of its workers in which the peers do the same. -/
theorem exists_run_meets (plan : Plan) (actions : List Pool.Action) :
    ∃ moves, peersAfter moves = Pool.peersAfter actions
      ∧ (run plan moves).Meets plan (Pool.run plan actions) := by
  induction actions using List.reverseRecOn with
  | nil => exact ⟨[], rfl, .inl ⟨shows_fresh plan, runs_fresh plan, .inl rfl⟩⟩
  | append_singleton earlier action inductionHypothesis =>
      obtain ⟨moves, samePeers, meets⟩ := inductionHypothesis
      obtain ⟨last, ⟨more, own, rfl⟩, ends⟩ :=
        meets.perform (Pool.faithful_run plan earlier) action
      refine ⟨moves ++ (Action.ofPool action ++ more), ?_, ?_⟩
      · rw [peersAfter, List.foldl_append, List.foldl_append, foldl_onPeers_of_own own,
          Pool.peersAfter, List.foldl_append]
        change (Action.ofPool action).foldl Action.onPeers (peersAfter moves)
          = action.onPeers (Pool.peersAfter earlier)
        rw [samePeers]
        cases action <;> rfl
      · rw [run, Shift.after, List.foldl_append, List.foldl_append, Pool.run, List.foldl_append]
        exact ends

end Running

end Shift

end AdmissionControl
