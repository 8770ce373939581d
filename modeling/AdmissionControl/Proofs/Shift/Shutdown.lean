import AdmissionControl.Proofs.Pool.Phases
import AdmissionControl.Proofs.Shift.Course
import AdmissionControl.Proofs.Shift.Stopping

/-!
# The shutdown of a pool

A shutdown leaves nothing behind. Whatever it finds, and whatever peers and workers do meanwhile, in
whatever order, it takes no line but one at most of each connection that a worker had. When it returns
no worker runs and every connection that was submitted is closed.
-/

namespace AdmissionControl

/-- How a shutdown goes that finds workers as `begun`, when `later` has happened since, the log tells
of it, and it has come to `last`. -/
structure Shift.ShutsDown (plan : Pool.Plan) (begun : Shift) (later : List Shift.Action)
    (since : List Shift.Event) (last : Shift) : Prop where
  log : last.log = begun.log ++ since
  /-- A connection that is between lines when its worker hears of the shutdown is closed at once,
  whatever its peer has sent that the worker has not looked at, and nothing has been told of it. -/
  atOnce : ∀ {worker : Nat} {now : Charge}, last.duties[worker]? = some (.busy now) →
    now.unsent = [] → now.session.partialLine = [] →
      last.heed worker = { last with
          duties := last.duties.set worker .stopped
          log := last.log ++ [.closed now.number (some .shutDown)] }
        ∧ Shift.exchangesOn since now.number = [] ∧ Shift.received since now.number = []
  /-- A connection stays between lines, or inside one, whatever its peer and the other workers do,
  until its worker turns to it. -/
  untouched : ∀ {worker : Nat} {charge : Charge}, begun.duties[worker]? = some (.busy charge) →
    (∀ action ∈ later, action.worker? ≠ some worker) →
      ∃ now, last.duties[worker]? = some (.busy now) ∧ now.number = charge.number
        ∧ now.unsent = charge.unsent ∧ now.session.partialLine = charge.session.partialLine
  /-- A connection that a worker had is closed, after at most one line more, or the worker still has
  it and has taken at most that line. -/
  served : ∀ charge ∈ begun.charges,
    (∃ ending, .closed charge.number (some ending) ∈ since
        ∧ charge.Fate plan.service (charge.came later) (Shift.exchangesOn since charge.number)
          (Shift.received since charge.number) ending)
      ∨ (∃ now ∈ last.charges, now.number = charge.number)
        ∧ charge.Told plan.service (charge.came later) (Shift.exchangesOn since charge.number)
          (Shift.received since charge.number)
  /-- Nothing is told of any other connection. -/
  elsewhere : ∀ number, number ∉ begun.charges.map Charge.number →
    Shift.exchangesOn since number = [] ∧ Shift.received since number = []
  /-- Nothing that was queued is ever read. -/
  unread : ∀ entry ∈ begun.queue, Shift.exchangesOn last.log entry.1 = []
  /-- What is told accounts for the limiter. -/
  limiter : Serves plan.service.tuning begun.limiter (Shift.exchanges since) last.limiter
  /-- A worker that has become free stops, whatever is queued. -/
  freed : ∀ {worker : Nat}, last.duties[worker]? = some .idle →
    (last.heed worker).duties = last.duties.set worker .stopped
      ∧ (last.take worker).duties = last.duties.set worker .stopped
  /-- Once no connection is left, the shutdown returns when the workers have heard of it, in whatever
  order. -/
  drained : last.charges = [] → ∀ order : List Nat, (∀ worker < plan.size, worker ∈ order) →
    (last.after plan (order.map .heed ++ [.conclude])).phase = .stopped
  /-- It returns when its time is over and the workers are stopped, in whatever order, and nothing is
  told then. -/
  timeOver : ∀ order : List Nat, (∀ worker < plan.size, worker ∈ order) →
    let concluded := last.after plan (order.map .abort ++ [.conclude])
    concluded.phase = .stopped ∧ concluded.limiter = last.limiter
      ∧ Shift.exchanges concluded.log = Shift.exchanges last.log
      ∧ ∀ number, Shift.received concluded.log number = Shift.received last.log number
  /-- When it has returned nothing is left. -/
  returned : last.phase = .stopped → last.running = 0 ∧ last.charges = [] ∧ last.queue = []
    ∧ (Shift.closedIn last.log).Perm (List.range last.arrivals)
  /-- A submission fails, and its connection is closed. -/
  refused : ∀ inbox, last.outcome plan = .refused .poolShutDown
    ∧ last.submit plan inbox = { last with
        arrivals := last.arrivals + 1
        log := last.log ++ [.closed last.arrivals none] }
  /-- Another shutdown changes nothing, and when one has returned nothing does but peers. -/
  again : last.beginShutdown = last
    ∧ (last.phase = .stopped → ∀ action : Shift.Action, action.isOfPeer = false →
        last.perform plan action = last)

/-- A pool that has shut down. -/
structure Pool.IsDown (plan : Plan) (pool : Pool) : Prop where
  phase : pool.phase = .stopped
  workers : pool.workers plan = 0
  serving : pool.serving = []
  queue : pool.queue = []
  /-- Every connection that was submitted is closed, and once. -/
  closed : (pool.log.filterMap Crew.closed?).Perm (List.range pool.arrivals)
  refused : ∀ inbox, (pool.submit plan inbox).outcome = .refused .poolShutDown
  again : ∀ milliseconds, (pool.shutdown plan milliseconds).pool = pool

namespace Shift

open Pool (Plan)

variable {plan : Plan} {peers : List Inbox} {begun shift last : Shift} {worker number : Nat}
  {later : List Action} {since : List Event}

section Stopped

/-- When a shutdown has returned, every worker has stopped and nothing is queued. -/
def IsEmptied (shift : Shift) : Prop :=
  shift.phase = .stopped → (∀ duty ∈ shift.duties, duty = .stopped) ∧ shift.queue = []

/-- No worker runs exactly if every worker has stopped. -/
theorem running_eq_zero_iff : shift.running = 0 ↔ ∀ duty ∈ shift.duties, duty = .stopped := by
  rw [running, List.countP_eq_zero]
  exact forall₂_congr fun _ _ => by simp

theorem stopped_of_getElem? (stopped : ∀ duty ∈ shift.duties, duty = .stopped) {duty : Duty}
    (found : shift.duties[worker]? = some duty) : duty = .stopped :=
  stopped duty (List.mem_of_getElem? found)

theorem IsEmptied.perform (emptied : shift.IsEmptied) (action : Action) :
    (shift.perform plan action).IsEmptied := by
  intro phase
  cases own : action.isOfPeer with
  | true =>
      cases action with
      | submit inbox =>
          have same : (shift.submit plan inbox).phase = shift.phase := by
            unfold Shift.submit
            split <;> rfl
          have stopped : shift.phase = .stopped := same.symm.trans phase
          have refused : shift.outcome plan ≠ .queued := by simp [outcome, stopped]
          change (∀ duty ∈ (shift.submit plan inbox).duties, duty = .stopped)
            ∧ (shift.submit plan inbox).queue = []
          rw [Shift.submit, if_neg refused]
          exact emptied stopped
      | act number action =>
          obtain ⟨stopped, unqueued⟩ := emptied phase
          refine ⟨fun duty member => ?_, ?_⟩
          · obtain ⟨before, has, rfl⟩ := List.mem_map.mp member
            rw [stopped before has]
            rfl
          · change shift.queue.map _ = []
            rw [unqueued]
            rfl
      | take | read | send | lose | beginShutdown | heed | abort | conclude => cases own
  | false =>
      have moves : shift.Moves plan (shift.perform plan action) := moves_perform own
      generalize shift.perform plan action = after at moves phase ⊢
      cases moves with
      | rests => exact emptied phase
      | works has => cases stopped_of_getElem? (emptied phase).1 has
      | takes idle => cases stopped_of_getElem? (emptied phase).1 idle
      | stops idle => cases stopped_of_getElem? (emptied phase).1 idle
      | begins => cases phase
      | concludes _ noneRuns => exact ⟨running_eq_zero_iff.mp noneRuns, rfl⟩

theorem isEmptied_run (plan : Plan) (actions : List Action) : (run plan actions).IsEmptied := by
  induction actions using List.reverseRecOn with
  | nil => exact nofun
  | append_singleton earlier action inductionHypothesis =>
      rw [run, Shift.after, List.foldl_append]
      exact inductionHypothesis.perform action

/-- Workers that have stopped do nothing any more. -/
theorem perform_of_stopped (phase : shift.phase = .stopped)
    (stopped : ∀ duty ∈ shift.duties, duty = .stopped) {action : Action}
    (own : action.isOfPeer = false) : shift.perform plan action = shift := by
  have noDuty (worker : Nat) : shift.duties[worker]? = none
      ∨ shift.duties[worker]? = some .stopped := by
    cases found : shift.duties[worker]? with
    | none => exact .inl rfl
    | some duty => exact .inr (congrArg some (stopped_of_getElem? stopped found))
  cases action with
  | submit | act => cases own
  | beginShutdown | conclude => exact if_neg (by simp [phase])
  | take worker | read worker | send worker | lose worker | heed worker | abort worker =>
      rcases noDuty worker with none | isStopped
      · simp only [Shift.perform, Shift.take, Shift.read, Shift.send, Shift.lose, Shift.heed,
          Shift.abort, none, ite_self]
      · simp only [Shift.perform, Shift.take, Shift.read, Shift.send, Shift.lose, Shift.heed,
          Shift.abort, isStopped, ite_self]

/-- Workers come and go in their places. -/
theorem length_duties_perform (shift : Shift) (action : Action) :
    (shift.perform plan action).duties.length = shift.duties.length := by
  cases own : action.isOfPeer with
  | true =>
      cases action with
      | submit inbox =>
          change (shift.submit plan inbox).duties.length = _
          unfold Shift.submit
          split <;> rfl
      | act => exact List.length_map _
      | take | read | send | lose | beginShutdown | heed | abort | conclude => cases own
  | false =>
      have moves : shift.Moves plan (shift.perform plan action) := moves_perform own
      generalize shift.perform plan action = after at moves ⊢
      cases moves with
      | rests | concludes => rfl
      | works | takes | stops => exact List.length_set
      | begins => exact List.length_map _

theorem length_duties_after (shift : Shift) (actions : List Action) :
    (shift.after plan actions).duties.length = shift.duties.length := by
  induction actions using List.reverseRecOn with
  | nil => rfl
  | append_singleton front action inductionHypothesis =>
      rw [Shift.after, List.foldl_append]
      exact (length_duties_perform _ action).trans inductionHypothesis

end Stopped

section Ending

/-- A worker that hears of a shutdown, or is stopped, while no worker has a connection that it would
go on with, stops. -/
theorem after_each (plan : Plan) (action : Nat → Action) (free : Duty → Prop)
    (freeOfStopped : free .stopped)
    (step : ∀ (shift : Shift) (worker : Nat), shift.phase ≠ .running →
      (∀ duty ∈ shift.duties, free duty) → ∃ closings, Closings closings
        ∧ shift.perform plan (action worker)
          = { shift with
              duties := shift.duties.set worker .stopped
              log := shift.log ++ closings })
    (winding : shift.phase ≠ .running) (areFree : ∀ duty ∈ shift.duties, free duty)
    (order : List Nat) :
    ∃ closings, Closings closings
      ∧ shift.after plan (order.map action)
        = { shift with
            duties := order.foldl (fun duties worker => duties.set worker .stopped) shift.duties
            log := shift.log ++ closings } := by
  induction order generalizing shift with
  | nil =>
      refine ⟨[], fun _ member => absurd member List.not_mem_nil, ?_⟩
      rw [List.append_nil]
      rfl
  | cons worker rest inductionHypothesis =>
      obtain ⟨first, areClosings, performed⟩ := step shift worker winding areFree
      let next : Shift := { shift with
        duties := shift.duties.set worker .stopped
        log := shift.log ++ first }
      have stillWinding : next.phase ≠ .running := winding
      obtain ⟨more, alsoClosings, later⟩ := inductionHypothesis stillWinding fun duty member =>
        (List.mem_or_eq_of_mem_set member).elim (areFree duty) fun same => same ▸ freeOfStopped
      refine ⟨first ++ more, fun event member =>
        (List.mem_append.mp member).elim (areClosings event) (alsoClosings event), ?_⟩
      rw [List.map_cons, Shift.after, List.foldl_cons, performed]
      refine later.trans ?_
      dsimp only [next]
      rw [List.append_assoc]
      rfl

/-- Once each of the workers has been stopped, all of them are. -/
theorem stopped_of_foldl {order : List Nat} {duties : List Duty}
    (covers : ∀ worker < duties.length, worker ∈ order ∨ duties[worker]? = some .stopped) :
    ∀ duty ∈ order.foldl (fun duties worker => duties.set worker .stopped) duties,
      duty = .stopped := by
  induction order generalizing duties with
  | nil =>
      intro duty member
      obtain ⟨worker, found⟩ := List.mem_iff_getElem?.mp member
      have present := (List.getElem?_eq_some_iff.mp found).1
      have stopped := (covers worker present).resolve_left List.not_mem_nil
      exact Option.some.inj (found.symm.trans stopped)
  | cons first rest inductionHypothesis =>
      refine inductionHypothesis fun worker present => ?_
      rw [List.length_set] at present
      by_cases same : worker = first
      · rw [same, List.getElem?_set_self (same ▸ present)]
        exact .inr rfl
      · rw [List.getElem?_set_ne (Ne.symm same)]
        exact (covers worker present).imp_left fun member =>
          (List.mem_cons.mp member).resolve_left same

/-- A shutdown returns once every worker has stopped. -/
theorem conclude_of_stopped (winding : shift.phase ≠ .running)
    (stopped : ∀ duty ∈ shift.duties, duty = .stopped) :
    shift.conclude.phase = .stopped ∧ shift.conclude.limiter = shift.limiter
      ∧ ∃ closings, Closings closings ∧ shift.conclude.log = shift.log ++ closings := by
  unfold conclude
  split
  · exact ⟨rfl, rfl, _, closings_map shift.queue, rfl⟩
  · next notOver =>
    refine ⟨?_, rfl, [], fun _ member => absurd member List.not_mem_nil, (List.append_nil _).symm⟩
    cases phase : shift.phase with
    | running => exact absurd phase winding
    | draining => exact absurd ⟨phase, running_eq_zero_iff.mpr stopped⟩ notOver
    | stopped => rfl

/-- When each of the workers has stopped, a shutdown returns, and nothing is told meanwhile. -/
theorem returns_of_each {action : Nat → Action} {order : List Nat}
    (each : ∃ closings, Closings closings
      ∧ shift.after plan (order.map action)
        = { shift with
            duties := order.foldl (fun duties worker => duties.set worker .stopped) shift.duties
            log := shift.log ++ closings })
    (winding : shift.phase ≠ .running) (covers : ∀ worker < shift.duties.length, worker ∈ order) :
    let concluded := shift.after plan (order.map action ++ [.conclude])
    concluded.phase = .stopped ∧ concluded.limiter = shift.limiter
      ∧ exchanges concluded.log = exchanges shift.log
      ∧ ∀ number, received concluded.log number = received shift.log number := by
  obtain ⟨closings, areClosings, after⟩ := each
  let wound : Shift := { shift with
    duties := order.foldl (fun duties worker => duties.set worker .stopped) shift.duties
    log := shift.log ++ closings }
  have stopped : ∀ duty ∈ wound.duties, duty = .stopped :=
    stopped_of_foldl fun worker present => .inl (covers worker present)
  have stillWinding : wound.phase ≠ .running := winding
  obtain ⟨phase, limiter, more, alsoClosings, log⟩ := conclude_of_stopped stillWinding stopped
  have concludedEq : shift.after plan (order.map action ++ [.conclude]) = wound.conclude := by
    rw [Shift.after, List.foldl_append]
    exact congrArg conclude after
  rw [concludedEq]
  refine ⟨phase, limiter, ?_, fun number => ?_⟩
  · rw [log, exchanges_append, exchanges_append, areClosings.exchanges, alsoClosings.exchanges,
      List.append_nil, List.append_nil]
  · rw [log, received_append, received_append, areClosings.received, alsoClosings.received,
      List.append_nil, List.append_nil]

/-- A worker that is stopped ends its connection. -/
theorem abort_stops (shift : Shift) (worker : Nat) (winding : shift.phase ≠ .running) :
    ∃ closings, Closings closings
      ∧ shift.perform plan (.abort worker)
        = { shift with
            duties := shift.duties.set worker .stopped
            log := shift.log ++ closings } := by
  cases found : shift.duties[worker]? with
  | none =>
      refine ⟨[], fun _ member => absurd member List.not_mem_nil, ?_⟩
      have beyond : shift.duties.length ≤ worker := List.getElem?_eq_none_iff.mp found
      simp only [Shift.perform, Shift.abort, if_neg winding, found, List.append_nil,
        List.set_eq_of_length_le beyond]
  | some duty =>
      have aborted := abort_eq_windUp winding found
      have stops : duty.windUp (Charge.giveUp · .aborted) = .stopped := by
        cases duty <;> rfl
      rw [stops] at aborted
      refine ⟨_, ?_, aborted⟩
      cases duty with
      | idle | stopped => exact fun _ member => absurd member List.not_mem_nil
      | busy charge => exact (closing_eq (charge.giveUp .aborted)).1

/-- A worker without a connection that hears of a shutdown stops. -/
theorem heed_stops (shift : Shift) (worker : Nat) (winding : shift.phase ≠ .running)
    (free : ∀ duty ∈ shift.duties, duty.charge? = none) :
    ∃ closings, Closings closings
      ∧ shift.perform plan (.heed worker)
        = { shift with
            duties := shift.duties.set worker .stopped
            log := shift.log ++ closings } := by
  refine ⟨[], fun _ member => absurd member List.not_mem_nil, ?_⟩
  rw [List.append_nil]
  cases found : shift.duties[worker]? with
  | none =>
      have beyond : shift.duties.length ≤ worker := List.getElem?_eq_none_iff.mp found
      simp only [Shift.perform, Shift.heed, if_neg winding, found, List.set_eq_of_length_le beyond]
  | some duty =>
      have noCharge := free duty (List.mem_of_getElem? found)
      cases duty with
      | busy charge => cases noCharge
      | idle => simp only [Shift.perform, Shift.heed, if_neg winding, found]
      | stopped =>
          obtain ⟨present, same⟩ := List.getElem?_eq_some_iff.mp found
          have unchanged : shift.duties.set worker .stopped = shift.duties := by
            rw [← same, List.set_getElem_self present]
          simp only [Shift.perform, Shift.heed, if_neg winding, found, unchanged]

end Ending

section Shutdowns

/-- A connection between lines is closed when its worker hears of the shutdown. -/
theorem heed_of_between (winding : shift.phase ≠ .running) (faithful : Faithful plan peers shift)
    {now : Charge} (has : shift.duties[worker]? = some (.busy now)) (ready : now.unsent = [])
    (between : now.session.partialLine = []) :
    shift.heed worker = { shift with
      duties := shift.duties.set worker .stopped
      log := shift.log ++ [.closed now.number (some .shutDown)] } := by
  obtain ⟨goesOn, _⟩ := faithful.busy has
  have isOpen : now.session.isOver = false := by simpa [Charge.isDone, ready] using goesOn
  have heeded : now.session.heed = { now.session with ending := some .shutDown } :=
    if_neg (by simp [isOpen, between])
  have isDone : now.heed.isDone = true := by
    rw [Charge.isDone, Charge.heed, heeded, ready]
    rfl
  have ending : now.heed.session.ending = some .shutDown := by rw [Charge.heed, heeded]
  have duty : Duty.after now.heed = .stopped := by rw [Duty.after, if_pos isDone, ending]
  simp only [heed, if_neg winding, has, if_pos ready, settle, duty, if_pos isDone, ending,
    Charge.number_heed]

/-- Nothing is told of a connection whose worker reads. -/
theorem WindsUp.silentOn (windsUp : WindsUp plan begun later since last) {now : Charge}
    (has : last.duties[worker]? = some (.busy now)) (ready : now.unsent = []) :
    exchangesOn since now.number = [] ∧ received since now.number = [] := by
  obtain ⟨charge, _, winds⟩ := windsUp.busy now (mem_charges has)
  rw [winds.number]
  exact winds.silent ready

/-- A step that is not its worker's leaves a connection as it is but for what has come on it. -/
theorem getElem?_perform_of_ne (winding : shift.phase ≠ .running) {action : Action}
    (elsewhere : action.worker? ≠ some worker) {charge : Charge}
    (has : shift.duties[worker]? = some (.busy charge)) :
    ∃ inbox, (shift.perform plan action).duties[worker]? = some (.busy { charge with inbox }) := by
  cases of : action.worker? with
  | some other =>
      have different : other ≠ worker := fun same => elsewhere (of.trans (congrArg some same))
      refine ⟨charge.inbox, ?_⟩
      rcases duties_perform_of_worker of with same | ⟨duty, same⟩
      · rw [same, has]
      · rw [same, List.getElem?_set_ne different, has]
  | none =>
      cases action with
      | take | read | send | lose | heed | abort => cases of
      | submit inbox =>
          have same : (shift.perform plan (.submit inbox)).duties = shift.duties := by
            dsimp only [perform, submit]
            split <;> rfl
          exact ⟨charge.inbox, by rw [same, has]⟩
      | act number action =>
          have after : (shift.perform plan (.act number action)).duties[worker]?
              = some (.busy (charge.onPeer number action)) := by
            dsimp only [perform, act]
            rw [List.getElem?_map, has]
            rfl
          rw [after]
          unfold Charge.onPeer
          split
          · exact ⟨_, rfl⟩
          · exact ⟨charge.inbox, rfl⟩
      | beginShutdown =>
          have same : shift.perform plan .beginShutdown = shift := if_neg winding
          exact ⟨charge.inbox, by rw [same, has]⟩
      | conclude =>
          have same : (shift.perform plan .conclude).duties = shift.duties := by
            dsimp only [perform, conclude]
            split <;> rfl
          exact ⟨charge.inbox, by rw [same, has]⟩

/-- Until its worker turns to it a connection is as it was when the shutdown began, but for what has
come on it. -/
theorem getElem?_after_of_untouched (plan : Plan) (earlier : List Action)
    (running : (run plan earlier).phase = .running) {charge : Charge}
    (has : (run plan earlier).duties[worker]? = some (.busy charge)) {later : List Action}
    (untouched : ∀ action ∈ later, action.worker? ≠ some worker) :
    ∃ inbox, ((run plan earlier).beginShutdown.after plan later).duties[worker]?
      = some (.busy { charge.signal with inbox }) := by
  induction later using List.reverseRecOn with
  | nil =>
      refine ⟨charge.inbox, ?_⟩
      change (run plan earlier).beginShutdown.duties[worker]? = _
      rw [beginShutdown, if_pos running, List.getElem?_map, has]
      rfl
  | append_singleton front action inductionHypothesis =>
      obtain ⟨_, windsUp⟩ := exists_windsUp plan earlier front running
      obtain ⟨inbox, stays⟩ := inductionHypothesis fun other member =>
        untouched other (List.mem_append_left _ member)
      obtain ⟨last, after⟩ := getElem?_perform_of_ne windsUp.winding
        (untouched action (List.mem_append_right _ List.mem_cons_self)) stays
      refine ⟨last, ?_⟩
      rw [Shift.after, List.foldl_append]
      exact after

/-- A worker that has become free while the daemon shuts down stops. -/
theorem duties_of_idle (winding : shift.phase ≠ .running)
    (idle : shift.duties[worker]? = some .idle) :
    (shift.heed worker).duties = shift.duties.set worker .stopped
      ∧ (shift.take worker).duties = shift.duties.set worker .stopped := by
  constructor
  · rw [heed, if_neg winding, idle]
  · have stopping : decide (shift.phase ≠ .running) = true := decide_eq_true winding
    rw [take, idle]
    cases shift.queue with
    | nil =>
        dsimp only
        rw [if_neg winding]
    | cons entry rest =>
        dsimp only
        rw [stopping]
        rfl

/-- A connection that a worker had is closed, or a worker still has it. -/
theorem WindsUp.served (windsUp : WindsUp plan begun later since last)
    (began : Faithful plan peers begun) {peersNow : List Inbox}
    (faithful : Faithful plan peersNow last) {charge : Charge} (known : charge ∈ begun.charges) :
    (∃ ending, .closed charge.number (some ending) ∈ since
        ∧ charge.Fate plan.service (charge.came later) (exchangesOn since charge.number)
          (received since charge.number) ending)
      ∨ (∃ now ∈ last.charges, now.number = charge.number)
        ∧ charge.Told plan.service (charge.came later) (exchangesOn since charge.number)
          (received since charge.number) := by
  have distinct := began.accounted.nodup_iff.mpr List.nodup_range
  have once : (begun.charges.map Charge.number).Nodup :=
    (List.nodup_append.mp (List.nodup_append.mp distinct).1).1
  have isServed : charge.number ∈ begun.charges.map Charge.number :=
    List.mem_map.mpr ⟨charge, known, rfl⟩
  have isOpen : charge.number ∈ begun.opened := List.mem_append_left _ isServed
  have isKnown : charge.number ∈ List.range last.arrivals :=
    List.mem_range.mpr (Nat.lt_of_lt_of_le
      (List.mem_range.mp (began.accounted.mem_iff.mp (List.mem_append_left _ isOpen)))
      windsUp.arrivals)
  rcases List.mem_append.mp (faithful.accounted.mem_iff.mpr isKnown) with stillOpen | isClosed
  · rcases List.mem_append.mp stillOpen with isHeld | isQueued
    · obtain ⟨now, has, same⟩ := List.mem_map.mp isHeld
      obtain ⟨other, isOther, winds⟩ := windsUp.busy now has
      obtain rfl : other = charge :=
        List.inj_on_of_nodup_map once isOther known (winds.number.symm.trans same)
      exact .inr ⟨⟨now, has, same⟩, winds.tells⟩
    · obtain ⟨entry, waits, same⟩ := List.mem_map.mp isQueued
      exact absurd (same ▸ isServed) (windsUp.queued entry waits)
  · rw [windsUp.log, closedIn_append] at isClosed
    rcases List.mem_append.mp isClosed with before | since
    · exact absurd before (List.disjoint_of_nodup_append distinct isOpen)
    · obtain ⟨ending, member⟩ := exists_of_mem_closedIn since
      obtain ⟨reason, rfl, fate⟩ := windsUp.closed charge known ending member
      exact .inl ⟨reason, member, fate⟩

/-- Nothing of what was queued when the shutdown began has been read. -/
theorem WindsUp.unread (windsUp : WindsUp plan begun later since last)
    (began : Faithful plan peers begun) {entry : Nat × Inbox} (queued : entry ∈ begun.queue) :
    exchangesOn last.log entry.1 = [] := by
  have distinct := (List.nodup_append.mp (began.accounted.nodup_iff.mpr List.nodup_range)).1
  have absent : entry.1 ∉ begun.charges.map Charge.number := fun member =>
    List.disjoint_of_nodup_append distinct member (List.mem_map.mpr ⟨entry, queued, rfl⟩)
  rw [windsUp.log, exchangesOn_append, (began.waiting entry queued).2.1,
    (windsUp.silent entry.1 absent).1]
  rfl

/-- After any run a shutdown goes so, whatever happens then. -/
theorem shutsDown_run (plan : Plan) (earlier later : List Action)
    (running : (run plan earlier).phase = .running) :
    let begun := run plan earlier
    let last := begun.beginShutdown.after plan later
    ∃ since, ShutsDown plan begun later since last := by
  intro begun last
  obtain ⟨since, windsUp⟩ := exists_windsUp plan earlier later running
  have began : Faithful plan (peersAfter earlier) begun := faithful_run plan earlier
  have lastEq : last = run plan (earlier ++ .beginShutdown :: later) := by
    rw [run, Shift.after, List.foldl_append]
    rfl
  have faithful : Faithful plan (peersAfter (earlier ++ .beginShutdown :: later)) last :=
    lastEq ▸ faithful_run plan _
  have staffed : last.duties.length = plan.size := by
    rw [lastEq, run, length_duties_after]
    exact List.length_replicate
  have emptied (stopped : last.phase = .stopped) :
      (∀ duty ∈ last.duties, duty = .stopped) ∧ last.queue = [] := by
    have isEmptied := isEmptied_run plan (earlier ++ .beginShutdown :: later)
    rw [← lastEq] at isEmptied
    exact isEmptied stopped
  have winding : last.phase ≠ .running := windsUp.winding
  refine ⟨since, windsUp.log, fun has ready between =>
      ⟨heed_of_between winding faithful has ready between, windsUp.silentOn has ready⟩,
    fun has elsewhere => ?_,
    fun charge known => windsUp.served began faithful known, windsUp.silent,
    fun entry queued => windsUp.unread began queued, windsUp.limiter, duties_of_idle winding,
    fun free order covers => ?_, fun order covers => ?_, fun stopped => ?_, fun inbox => ?_, ?_, ?_⟩
  · obtain ⟨inbox, stays⟩ := getElem?_after_of_untouched plan earlier running has elsewhere
    refine ⟨_, stays, rfl, rfl, ?_⟩
    change (Session.signal _).partialLine = _
    unfold Session.signal
    split <;> rfl
  · have areFree : ∀ duty ∈ last.duties, duty.charge? = none :=
      List.filterMap_eq_nil_iff.mp free
    have each := after_each plan .heed (·.charge? = none) rfl heed_stops winding areFree order
    exact (returns_of_each each winding (staffed ▸ covers)).1
  · have each := after_each plan .abort (fun _ => True) trivial
      (fun shift worker winding _ => abort_stops shift worker winding) winding
      (fun _ _ => trivial) order
    exact returns_of_each each winding (staffed ▸ covers)
  · obtain ⟨areStopped, unqueued⟩ := emptied stopped
    have unserved : last.charges = [] := List.filterMap_eq_nil_iff.mpr fun duty member => by
      rw [areStopped duty member]
      rfl
    have accounted := faithful.accounted
    rw [opened, unserved, unqueued] at accounted
    exact ⟨running_eq_zero_iff.mpr areStopped, unserved, unqueued, accounted⟩
  · have refused : last.outcome plan = .refused .poolShutDown := if_pos winding
    refine ⟨refused, ?_⟩
    rw [submit, refused]
    rfl
  · exact if_neg winding
  · exact fun stopped action own => perform_of_stopped stopped (emptied stopped).1 own

end Shutdowns

end Shift

namespace Pool

variable {plan : Plan} {pool : Pool}

/-- A pool that has stopped is down, since its workers are. -/
theorem isDown_of_stopped {actions : List Action} (stopped : (run plan actions).phase = .stopped) :
    (run plan actions).IsDown plan := by
  obtain ⟨moves, _, meets⟩ := Shift.exists_run_meets plan actions
  have shown := meets.shows
  have phase : (Shift.run plan moves).phase = .stopped := shown.phase.trans stopped
  obtain ⟨areStopped, unqueued⟩ := Shift.isEmptied_run plan moves phase
  have unserved : (Shift.run plan moves).charges = [] :=
    List.filterMap_eq_nil_iff.mpr fun duty member => by
      rw [areStopped duty member]
      rfl
  have accounted := (Shift.faithful_run plan moves).accounted
  rw [Shift.opened, unserved, unqueued, shown.arrivals] at accounted
  refine ⟨stopped, ?_, ?_, shown.queue.symm.trans unqueued, shown.log.closed.symm.trans accounted,
    fun inbox => ?_, fun milliseconds => ?_⟩
  · rw [workers, stopped]
  · have none := shown.charges
    rw [unserved] at none
    exact List.map_eq_nil_iff.mp none.nil_eq.symm
  · have begun : (run plan actions).phase ≠ .running := by simp [stopped]
    rw [submit, if_pos begun]
  · rw [shutdown, beginShutdown, stopped]
    dsimp only
    rw [endShutdown, stopped]

/-- A pool that has been shut down stays down, whatever is done to it. -/
theorem isDown_run (plan : Plan) (earlier later : List Action) (milliseconds : Nat) :
    (run plan (earlier ++ .shutdown milliseconds :: later)).IsDown plan := by
  refine isDown_of_stopped ?_
  rw [run, List.foldl_append, List.foldl_cons]
  induction later using List.reverseRecOn with
  | nil => exact phase_shutdown ..
  | append_singleton front action inductionHypothesis =>
      rw [List.foldl_append]
      exact phase_perform_of_stopped inductionHypothesis action

/-- Where the workers hear of a shutdown before anything else happens, connections between lines are
closed as it begins. -/
theorem closes_beginShutdown {actions : List Action}
    (running : (run plan actions).phase = .running) {entry : Nat × Session}
    (served : entry ∈ (run plan actions).serving) (between : entry.2.partialLine = []) :
    .closed entry.1 entry.2.reachable ∈ ((run plan actions).beginShutdown plan).log := by
  have isOpen := Shift.isOpen_of_serving (faithful_run plan actions) served
  have signaled : entry.2.signal = { entry.2 with stopping := true } := if_neg (by simp [isOpen])
  have stops : entry.2.stop = { entry.2 with stopping := true, ending := some .shutDown } := by
    rw [Session.stop, Session.heed, signaled]
    exact if_neg (by simp [Session.isOver, between] at isOpen ⊢; exact isOpen)
  have closed : .closed entry.1 entry.2.reachable
      ∈ ((run plan actions).changeSessions Session.stop).log := by
    refine List.mem_append_right _ (List.mem_map.mpr ⟨(entry.1, entry.2.stop), ?_, ?_⟩)
    · refine List.mem_filter.mpr ⟨List.mem_map.mpr ⟨entry, served, rfl⟩, ?_⟩
      rw [stops]
      rfl
    · rw [stops]
  rw [beginShutdown, running]
  unfold proceed
  dsimp only
  split
  · exact List.mem_append_left _ closed
  · exact closed

/-- A worker that reads before it hears of the shutdown is inside a line by then, and answers it. -/
example :
    let plan : Plan := ⟨⟨⟨4, 300, 1, Limiter.usualDecrease⟩, 1024⟩, 1⟩
    let later : List Shift.Action := .act 0 (.send (Text.encode "STATS\nADMIT\n".toList)) :: .read 0
      :: .heed 0 :: List.replicate 5 (.read 0) ++ List.replicate 50 (.send 0) ++ [.conclude]
    let last := (Shift.run plan [.submit {}, .take 0]).beginShutdown.after plan later
    last.phase = .stopped ∧ Shift.closedIn last.log = [0]
      ∧ (Shift.exchangesOn last.log 0).map Exchange.line? = [some "STATS".toList] := by
  decide +kernel

end Pool

end AdmissionControl
