import AdmissionControl.Pool.Crew
import AdmissionControl.Proofs.Daemon.Order
import AdmissionControl.Proofs.Pool.Accounts
import Mathlib.Data.List.Perm.Basic

/-!
# The schedule of a pool's workers

Workers take connections from one queue, whichever of them is idle. Whatever peers do, a worker goes
back to the queue after each connection: only the end of the daemon stops it. So connections start
in the order of their submission, each at one worker, and wait only while every worker has one.
What the pool does at once is what its workers do when they have come to rest.
-/

namespace AdmissionControl

open Wire

section Endings

/-- A session that neither waits for the end of a shutdown nor was ended by one. -/
def Session.IsUnstopped (session : Session) : Prop :=
  session.stopping = false ∧ session.ending ≠ some .shutDown ∧ session.ending ≠ some .aborted

theorem Session.isUnstopped_opening (reachable : Bool) :
    (Session.opening reachable false).IsUnstopped := ⟨rfl, nofun, nofun⟩

variable {service : Service} {session : Session} {turn : Turn}

theorem Session.IsUnstopped.hearEnd (unstopped : session.IsUnstopped) :
    session.hearEnd.IsUnstopped := by
  unfold Session.hearEnd
  split
  · exact unstopped
  · exact ⟨unstopped.1, nofun, nofun⟩

theorem Session.IsUnstopped.await (unstopped : session.IsUnstopped) :
    (session.await service).IsUnstopped := by
  unfold Session.await
  split
  · exact unstopped
  · exact ⟨unstopped.1, nofun, nofun⟩

theorem Session.IsUnstopped.refuse (unstopped : turn.session.IsUnstopped) (fault : Fault) :
    (turn.refuse fault).session.IsUnstopped := by
  unfold Turn.refuse
  cases reachable : turn.session.reachable with
  | true => exact ⟨unstopped.1, nofun, nofun⟩
  | false => exact ⟨unstopped.1, nofun, nofun⟩

/-- Without a shutdown, a line ends a session only because its peer is gone or it is refused. -/
theorem Session.IsUnstopped.takeLine (unstopped : turn.session.IsUnstopped) (line : List UInt8) :
    (turn.takeLine service line).session.IsUnstopped := by
  unfold Turn.takeLine
  split
  · unfold Turn.answerWith
    dsimp only
    rw [unstopped.1]
    cases turn.session.reachable with
    | true => exact ⟨rfl, nofun, nofun⟩
    | false => exact ⟨rfl, nofun, nofun⟩
  · exact unstopped.refuse _

theorem Session.IsUnstopped.hearByte (unstopped : turn.session.IsUnstopped) (byte : UInt8) :
    (turn.hearByte service byte).session.IsUnstopped := by
  unfold Turn.hearByte
  dsimp only
  split
  · exact unstopped
  · split
    · exact unstopped.takeLine _
    · split
      · exact unstopped.refuse _
      · exact unstopped

theorem Session.IsUnstopped.hear (unstopped : turn.session.IsUnstopped) (bytes : List UInt8) :
    (turn.hear service bytes).session.IsUnstopped := by
  unfold Turn.hear
  induction bytes using List.reverseRecOn with
  | nil => exact unstopped.await
  | append_singleton front byte inductionHypothesis =>
      rw [List.foldl_append]
      exact inductionHypothesis.hearByte byte

/-- Nothing that a peer does stops a session. -/
theorem Session.IsUnstopped.onTurn (unstopped : turn.session.IsUnstopped) (action : PeerAction) :
    (action.onTurn service turn).session.IsUnstopped := by
  cases action with
  | send bytes => exact unstopped.hear bytes
  | finish => exact unstopped.hearEnd
  | leave => exact unstopped.hearEnd

theorem Inbox.isUnstopped_takeUp (service : Service) (limiter : Limiter) (inbox : Inbox) :
    (inbox.takeUp service limiter).session.IsUnstopped := by
  have heard : (Turn.hear service
      { session := .opening (!inbox.gone) false, limiter } inbox.bytes).session.IsUnstopped :=
    Session.IsUnstopped.hear (Session.isUnstopped_opening _) _
  unfold Inbox.takeUp
  dsimp only
  split
  · exact heard.hearEnd
  · exact heard

end Endings

namespace Worker

variable {number : Nat} {session : Session}

/-- A worker has a connection after a turn exactly if the session goes on. -/
theorem connection?_after (number : Nat) (session : Session) :
    (after number session).connection?
      = if session.isOver then none else some (number, session) := by
  unfold after Session.isOver
  cases session.ending with
  | none => rfl
  | some ending => cases ending <;> rfl

/-- The end of a session leaves its worker idle. -/
theorem after_of_isOver (unstopped : session.IsUnstopped) (isOver : session.isOver = true) :
    after number session = .idle := by
  obtain ⟨_, notShutDown, notAborted⟩ := unstopped
  unfold after
  cases ending : session.ending with
  | none => simp [Session.isOver, ending] at isOver
  | some ended =>
      cases ended with
      | shutDown => exact absurd ending notShutDown
      | aborted => exact absurd ending notAborted
      | closed | lost | refused => rfl

theorem after_of_isOpen (isOpen : session.isOver = false) :
    after number session = .serving number session := by
  have goesOn : session.ending = none := by simpa [Session.isOver] using isOpen
  rw [after, goesOn]

end Worker

namespace Crew

open Pool (Plan Event)

/-- The connection that an event closes. -/
def closed? : Event → Option Nat
  | .closed number _ => some number
  | .exchanged _ _ _ => none

/-- The connections that were closed. -/
def closed (crew : Crew) : List Nat := crew.log.filterMap closed?

/-- The connections that were accepted and are not closed. -/
def unfinished (crew : Crew) : List Nat :=
  crew.accepted.filter fun number => !crew.closed.contains number

/-- The connections that workers have or that are queued. -/
def opened (crew : Crew) : List Nat :=
  crew.served.map Prod.fst ++ crew.queue.map Prod.fst

/-- The connections of all workers but one. -/
def others (crew : Crew) (worker : Nat) : List (Nat × Session) :=
  (crew.workers.eraseIdx worker).filterMap Worker.connection?

section Replacing

variable {crew : Crew} {worker : Nat} {old : Worker}

/-- The connections that workers have are those of one worker and those of the others. -/
theorem served_perm (found : crew.workers[worker]? = some old) :
    crew.served.Perm (old.connection?.toList ++ crew.others worker) := by
  obtain ⟨present, rfl⟩ := List.getElem?_eq_some_iff.mp found
  have perm := (List.getElem_cons_eraseIdx_perm present).symm.filterMap Worker.connection?
  refine perm.trans (.of_eq ?_)
  rw [List.filterMap_cons, others]
  cases (crew.workers[worker]).connection? <;> rfl

/-- Another worker in its place leaves the others as they are. -/
theorem served_set_perm (found : crew.workers[worker]? = some old) (new : Worker) :
    ((crew.workers.set worker new).filterMap Worker.connection?).Perm
      (new.connection?.toList ++ crew.others worker) := by
  obtain ⟨present, _⟩ := List.getElem?_eq_some_iff.mp found
  have perm := (List.set_perm_cons_eraseIdx present new).filterMap Worker.connection?
  refine perm.trans (.of_eq ?_)
  rw [List.filterMap_cons, others]
  cases new.connection? <;> rfl

end Replacing

/-- A connection is served if some worker has it. -/
theorem exists_worker_of_served {crew : Crew} {number : Nat} {session : Session}
    (isServed : (number, session) ∈ crew.served) :
    ∃ worker : Nat, crew.workers[worker]? = some (.serving number session) := by
  obtain ⟨worker, present, has⟩ := List.mem_filterMap.mp isServed
  obtain ⟨index, found⟩ := List.mem_iff_getElem?.mp present
  cases worker with
  | idle => cases has
  | stopped => cases has
  | serving number session =>
      cases has
      exact ⟨index, found⟩

/-- Workers go on in order: none has stopped, connections start as they were accepted, and each is
with one worker, in the queue, or closed. -/
structure Sound (plan : Plan) (crew : Crew) : Prop where
  staffed : crew.workers.length = plan.size
  unstopped : .stopped ∉ crew.workers
  queued : crew.queue.length ≤ plan.size
  sessions : ∀ entry ∈ crew.served, entry.2.IsUnstopped
  started : crew.starts.map Prod.snd ++ crew.queue.map Prod.fst = crew.accepted
  sorted : crew.accepted.Pairwise (· < ·)
  given : ∀ number ∈ crew.accepted ++ crew.closed, number < crew.arrivals
  own : ∀ {worker number session}, crew.workers[worker]? = some (.serving number session) →
    (worker, number) ∈ crew.starts
  distinct : crew.opened.Nodup
  finished : ∀ number ∈ crew.accepted, number ∈ crew.opened ↔ number ∉ crew.closed

variable {plan : Plan} {crew : Crew}

theorem sound_fresh (plan : Plan) : Sound plan (fresh plan) := by
  have idle : ∀ worker ∈ (fresh plan).workers, worker = .idle := fun _ => List.eq_of_mem_replicate
  have unserved : (fresh plan).served = [] :=
    List.filterMap_eq_nil_iff.mpr fun worker member => by rw [idle worker member]; rfl
  refine ⟨List.length_replicate, fun member => ?_, Nat.zero_le _, fun entry member => ?_, rfl, .nil,
    fun number member => ?_, fun found => ?_, ?_, fun number member => ?_⟩
  · cases idle _ member
  · rw [unserved] at member
    cases member
  · cases member
  · cases idle _ (List.mem_of_getElem? found)
  · rw [opened, unserved]
    exact .nil
  · cases member

/-- What is open was accepted. -/
theorem Sound.accepted_of_opened (sound : Sound plan crew) {number : Nat}
    (isOpen : number ∈ crew.opened) : number ∈ crew.accepted := by
  rw [← sound.started]
  rcases List.mem_append.mp isOpen with served | queued
  · obtain ⟨entry, member, rfl⟩ := List.mem_map.mp served
    obtain ⟨worker, found⟩ := exists_worker_of_served member
    exact List.mem_append_left _ (List.mem_map.mpr ⟨_, sound.own found, rfl⟩)
  · exact List.mem_append_right _ queued

/-- A worker that is replaced by another state of it. -/
theorem Sound.getElem?_set {worker other number : Nat} {session : Session} {new : Worker}
    (found : (crew.workers.set worker new)[other]? = some (.serving number session)) :
    other = worker ∧ new = .serving number session
      ∨ crew.workers[other]? = some (.serving number session) := by
  rw [List.getElem?_set] at found
  split at found
  · next same =>
    split at found
    · exact .inl ⟨same.symm, Option.some.inj found⟩
    · cases found
  · exact .inr found

/-- An idle worker takes the first connection of the queue. -/
theorem Sound.start (sound : Sound plan crew) {worker number : Nat} {inbox : Inbox}
    {rest : List (Nat × Inbox)} (idle : crew.workers[worker]? = some .idle)
    (queue : crew.queue = (number, inbox) :: rest) {session : Session}
    (unstopped : session.IsUnstopped) :
    Sound plan
      { crew with
        workers := crew.workers.set worker (.serving number session)
        queue := rest
        starts := crew.starts ++ [(worker, number)] } := by
  have served : crew.served.Perm (crew.others worker) := served_perm idle
  have servedNow := served_set_perm idle (.serving number session)
  have same : (((crew.workers.set worker (.serving number session)).filterMap
        Worker.connection?).map Prod.fst ++ rest.map Prod.fst).Perm crew.opened := by
    rw [opened, queue]
    exact ((servedNow.map Prod.fst).append_right _).trans
      (List.perm_middle.symm.trans ((served.map Prod.fst).symm.append_right _))
  refine ⟨?_, ?_, ?_, ?_, ?_, sound.sorted, sound.given, ?_, same.nodup_iff.mpr sound.distinct, ?_⟩
  · exact List.length_set.trans sound.staffed
  · intro member
    rcases List.mem_or_eq_of_mem_set member with old | new
    · exact sound.unstopped old
    · cases new
  · have bound := sound.queued
    rw [queue] at bound
    exact Nat.le_of_succ_le bound
  · intro entry member
    rcases List.mem_cons.mp (servedNow.mem_iff.mp member) with rfl | other
    · exact unstopped
    · exact sound.sessions entry (served.mem_iff.mpr other)
  · have started := sound.started
    rw [queue] at started
    simpa using started
  · intro other otherNumber otherSession found
    rcases Sound.getElem?_set found with ⟨rfl, new⟩ | old
    · cases new
      exact List.mem_append_right _ (List.mem_singleton_self _)
    · exact List.mem_append_left _ (sound.own old)
  · intro other accepted
    exact same.mem_iff.trans (sound.finished other accepted)

/-- A turn closes its own connection, if its session is over. -/
theorem closed_settle (crew : Crew) (worker number : Nat) (turn : Turn) :
    (crew.settle worker number turn).closed
      = crew.closed ++ if turn.session.isOver then [number] else [] := by
  have silent : (turn.exchanges.map
      (Event.exchanged number · turn.session.reachable)).filterMap closed? = [] := by
    refine List.filterMap_eq_nil_iff.mpr fun event member => ?_
    obtain ⟨_, _, rfl⟩ := List.mem_map.mp member
    rfl
  rw [closed, settle]
  dsimp only
  rw [List.filterMap_append, List.filterMap_append, silent, List.append_nil]
  refine congrArg (crew.closed ++ ·) ?_
  split <;> rfl

/-- What is open after a turn, when `number` is what its worker has. -/
theorem opened_settle_perm {worker number : Nat} {session : Session}
    (held : crew.workers[worker]? = some (.serving number session)) (turn : Turn) :
    ∃ rest, crew.opened.Perm (number :: rest)
      ∧ (crew.settle worker number turn).opened.Perm
          ((if turn.session.isOver then [] else [number]) ++ rest) := by
  refine ⟨(crew.others worker).map Prod.fst ++ crew.queue.map Prod.fst, ?_, ?_⟩
  · exact ((served_perm held).map Prod.fst).append_right _
  · have perm := (served_set_perm held (.after number turn.session)).map Prod.fst
    rw [List.map_append, Worker.connection?_after] at perm
    refine (perm.append_right _).trans (.of_eq ?_)
    rw [List.append_assoc]
    split <;> rfl

/-- A turn of a worker that has a connection. -/
theorem Sound.settle (sound : Sound plan crew) {worker number : Nat} {session : Session}
    (held : crew.workers[worker]? = some (.serving number session)) {turn : Turn}
    (unstopped : turn.session.IsUnstopped) : Sound plan (crew.settle worker number turn) := by
  obtain ⟨rest, before, after⟩ := opened_settle_perm held turn
  have distinct := before.nodup_iff.mp sound.distinct
  have accepted : number ∈ crew.accepted :=
    sound.accepted_of_opened (before.mem_iff.mpr List.mem_cons_self)
  refine ⟨?_, ?_, sound.queued, ?_, sound.started, sound.sorted, ?_, ?_, ?_, ?_⟩
  · exact List.length_set.trans sound.staffed
  · intro member
    rcases List.mem_or_eq_of_mem_set member with old | new
    · exact sound.unstopped old
    · cases isOver : turn.session.isOver with
      | true =>
          rw [Worker.after_of_isOver unstopped isOver] at new
          cases new
      | false =>
          rw [Worker.after_of_isOpen isOver] at new
          cases new
  · intro entry member
    have perm := served_set_perm held (.after number turn.session)
    rcases List.mem_append.mp (perm.mem_iff.mp member) with own | other
    · rw [Worker.connection?_after] at own
      split at own
      · cases own
      · rw [List.mem_singleton.mp own]
        exact unstopped
    · exact sound.sessions entry ((served_perm held).mem_iff.mpr (List.mem_append_right _ other))
  · intro other member
    rw [closed_settle, ← List.append_assoc] at member
    rcases List.mem_append.mp member with old | new
    · exact sound.given other old
    · split at new
      · rw [List.mem_singleton.mp new]
        exact sound.given number (List.mem_append_left _ accepted)
      · cases new
  · intro other otherNumber otherSession found
    rcases Sound.getElem?_set found with ⟨rfl, new⟩ | old
    · have same := congrArg Worker.connection? new
      rw [Worker.connection?_after] at same
      split at same
      · cases same
      · cases same
        exact sound.own held
    · exact sound.own old
  · refine after.nodup_iff.mpr ?_
    split
    · exact (List.nodup_cons.mp distinct).2
    · exact distinct
  · intro other isAccepted
    have wasFinished := sound.finished other isAccepted
    rw [before.mem_iff, List.mem_cons] at wasFinished
    rw [after.mem_iff, closed_settle]
    by_cases same : other = number
    · subst same
      have wasOpen := wasFinished.mp (.inl rfl)
      have elsewhere := (List.nodup_cons.mp distinct).1
      split <;> simp [wasOpen, elsewhere]
    · have others : other ∈ rest ↔ other ∉ crew.closed := by simpa [same] using wasFinished
      split <;> simp [same, others]

/-- A worker tries to take a connection. -/
theorem Sound.take (sound : Sound plan crew) (worker : Nat) :
    Sound plan (crew.take plan worker) := by
  unfold Crew.take
  split
  · next number inbox rest idle queue =>
    have started := sound.start idle queue (Session.isUnstopped_opening true)
    obtain ⟨present, _⟩ := List.getElem?_eq_some_iff.mp idle
    have held : (crew.workers.set worker (.serving number (.opening true false)))[worker]?
        = some (.serving number (.opening true false)) := List.getElem?_set_self present
    have settled := started.settle held (inbox.isUnstopped_takeUp plan.service crew.limiter)
    simpa only [Crew.settle, List.set_set] using settled
  · exact sound

theorem Sound.hear (sound : Sound plan crew) (worker : Nat) (action : PeerAction) :
    Sound plan (crew.hear plan worker action) := by
  unfold Crew.hear
  split
  · next number session held =>
    have unstopped : session.IsUnstopped := by
      refine sound.sessions (number, session) ((served_perm held).mem_iff.mpr ?_)
      exact List.mem_cons_self
    exact sound.settle held (Session.IsUnstopped.onTurn unstopped action)
  · exact sound

theorem Sound.wait (sound : Sound plan crew) (number : Nat) (action : PeerAction) :
    Sound plan (crew.wait number action) := by
  have numbers : (crew.wait number action).queue.map Prod.fst = crew.queue.map Prod.fst :=
    Pool.map_fst_onInbox number action crew.queue
  have opened : (crew.wait number action).opened = crew.opened :=
    congrArg (crew.served.map Prod.fst ++ ·) numbers
  refine ⟨sound.staffed, sound.unstopped, ?_, sound.sessions, ?_, sound.sorted, sound.given,
    sound.own, ?_, ?_⟩
  · exact (List.length_map _).trans_le sound.queued
  · rw [numbers]
    exact sound.started
  · rw [opened]
    exact sound.distinct
  · rw [opened]
    exact sound.finished

/-- A submitted connection is queued behind the others, or is closed. -/
theorem Sound.submit (sound : Sound plan crew) (inbox : Inbox) :
    Sound plan (crew.submit plan inbox) := by
  have fresh : ∀ number ∈ crew.accepted ++ crew.closed, number ≠ crew.arrivals :=
    fun number member => Nat.ne_of_lt (sound.given number member)
  unfold Crew.submit
  dsimp only
  split
  · next room =>
    let after : Crew :=
      { crew with
        arrivals := crew.arrivals + 1
        queue := crew.queue ++ [(crew.arrivals, inbox)]
        accepted := crew.accepted ++ [crew.arrivals] }
    have opened : after.opened = crew.opened ++ [crew.arrivals] := by
      simp [Crew.opened, after, served]
    have unopened : crew.arrivals ∉ crew.opened := fun isOpen =>
      fresh _ (List.mem_append_left _ (sound.accepted_of_opened isOpen)) rfl
    have unclosed : crew.arrivals ∉ crew.closed := fun isClosed =>
      fresh _ (List.mem_append_right _ isClosed) rfl
    refine ⟨sound.staffed, sound.unstopped, ?_, sound.sessions, ?_, ?_, ?_, sound.own, ?_, ?_⟩
    · rw [hasRoom, decide_eq_true_eq] at room
      exact List.length_append.trans_le room
    · rw [List.map_append, ← List.append_assoc, sound.started]
      rfl
    · refine List.pairwise_append.mpr ⟨sound.sorted, List.pairwise_singleton _ _, ?_⟩
      intro number member last isLast
      rw [List.mem_singleton.mp isLast]
      exact sound.given number (List.mem_append_left _ member)
    · intro number member
      rcases List.mem_append.mp member with accepted | isClosed
      · rcases List.mem_append.mp accepted with old | new
        · exact Nat.lt_succ_of_lt (sound.given number (List.mem_append_left _ old))
        · rw [List.mem_singleton.mp new]
          exact Nat.lt_succ_self _
      · exact Nat.lt_succ_of_lt (sound.given number (List.mem_append_right _ isClosed))
    · change after.opened.Nodup
      rw [opened, ← List.concat_eq_append]
      exact (List.nodup_concat _ _).mpr ⟨unopened, sound.distinct⟩
    · intro number member
      change number ∈ after.opened ↔ number ∉ crew.closed
      rw [opened, List.mem_append, List.mem_singleton]
      rcases List.mem_append.mp member with old | new
      · have different := fresh number (List.mem_append_left _ old)
        simp [different, sound.finished number old]
      · rw [List.mem_singleton.mp new]
        simp [unclosed]
  · have closed (number : Nat) : number ∈ (crew.log ++ [Event.closed crew.arrivals
        (!inbox.gone)]).filterMap closed? ↔ number ∈ crew.closed ∨ number = crew.arrivals := by
      rw [List.filterMap_append, List.mem_append]
      exact or_congr_right List.mem_singleton
    refine ⟨sound.staffed, sound.unstopped, sound.queued, sound.sessions, sound.started,
      sound.sorted, ?_, sound.own, sound.distinct, ?_⟩
    · intro number member
      rcases List.mem_append.mp member with accepted | isClosed
      · exact Nat.lt_succ_of_lt (sound.given number (List.mem_append_left _ accepted))
      · rcases (closed number).mp isClosed with old | rfl
        · exact Nat.lt_succ_of_lt (sound.given number (List.mem_append_right _ old))
        · exact Nat.lt_succ_self _
    · intro number accepted
      have different := fresh number (List.mem_append_left _ accepted)
      refine (sound.finished number accepted).trans (not_congr ?_)
      exact ((closed number).trans (or_iff_left different)).symm

/-- One action. -/
theorem Sound.perform (sound : Sound plan crew) (action : Action) :
    Sound plan (crew.perform plan action) := by
  cases action with
  | submit inbox => exact sound.submit inbox
  | hear worker action => exact sound.hear worker action
  | wait number action => exact sound.wait number action
  | take worker => exact sound.take worker

/-- Any actions. -/
theorem sound_run (plan : Plan) (actions : List Action) : Sound plan (run plan actions) := by
  induction actions using List.reverseRecOn with
  | nil => exact sound_fresh plan
  | append_singleton earlier action inductionHypothesis =>
      rw [run, List.foldl_append]
      exact inductionHypothesis.perform action

/-- No worker can take a connection. -/
def IsSettled (crew : Crew) : Prop := crew.queue = [] ∨ .idle ∉ crew.workers

/-- How workers that have come to rest stand. -/
structure Scheduled (plan : Plan) (crew : Crew) : Prop where
  running : crew.running = plan.size
  served : crew.served.length ≤ plan.size
  queued : crew.queue.length ≤ plan.size
  /-- Connections are queued only while every worker has one. -/
  busy : crew.queue ≠ [] → crew.served.length = plan.size
  /-- A submission need not wait while there are few unfinished connections. -/
  room : crew.hasRoom plan = true ↔ crew.unfinished.length < 2 * plan.size
  /-- Connections are accepted in the order of their submission. -/
  submitted : crew.accepted.Pairwise (· < ·)
  /-- They start in this order, and those that have not are queued in it. -/
  started : crew.starts.map Prod.snd ++ crew.queue.map Prod.fst = crew.accepted
  once : (crew.starts.map Prod.snd).Nodup
  /-- A connection is with the worker that it started at. -/
  own : ∀ {worker number session}, crew.workers[worker]? = some (.serving number session) →
    (worker, number) ∈ crew.starts
  /-- A connection that ends, for whatever reason, leaves its worker to the head of the queue. -/
  freed : ∀ {worker number session}, crew.workers[worker]? = some (.serving number session) →
    ∀ action, let after := crew.hear plan worker action
      (number ∈ after.unfinished ∧ ∃ later, after.workers[worker]? = some (.serving number later))
      ∨ number ∉ after.unfinished ∧ after.workers[worker]? = some .idle
          ∧ ∀ next inbox rest, crew.queue = (next, inbox) :: rest →
              (after.take plan worker).starts = crew.starts ++ [(worker, next)]
                ∧ (after.take plan worker).queue = rest

section Rest

/-- What is unfinished is what is open. -/
theorem Sound.unfinished_perm (sound : Sound plan crew) : crew.unfinished.Perm crew.opened := by
  have accepted : crew.accepted.Nodup := sound.sorted.imp Nat.ne_of_lt
  refine (List.perm_ext_iff_of_nodup (accepted.filter _) sound.distinct).mpr fun number => ?_
  rw [List.mem_filter, Bool.not_eq_true', ← Bool.not_eq_true, List.contains_iff_mem]
  constructor
  · rintro ⟨isAccepted, unclosed⟩
    exact (sound.finished number isAccepted).mpr unclosed
  · intro isOpen
    have isAccepted := sound.accepted_of_opened isOpen
    exact ⟨isAccepted, (sound.finished number isAccepted).mp isOpen⟩

theorem Sound.running_eq (sound : Sound plan crew) : crew.running = plan.size := by
  rw [running, ← sound.staffed, List.countP_eq_length]
  intro worker member
  exact decide_eq_true fun isStopped => sound.unstopped (isStopped ▸ member)

theorem Sound.length_served_le (sound : Sound plan crew) : crew.served.length ≤ plan.size :=
  sound.staffed ▸ List.length_filterMap_le _ _

/-- Without an idle worker, every worker has a connection. -/
theorem Sound.length_served (sound : Sound plan crew) (noIdle : .idle ∉ crew.workers) :
    crew.served.length = plan.size := by
  rw [served, List.length_filterMap_eq_countP, ← sound.staffed, List.countP_eq_length]
  intro worker member
  cases worker with
  | idle => exact absurd member noIdle
  | stopped => exact absurd member sound.unstopped
  | serving number session => rfl

theorem hear_of_serving {worker number : Nat} {session : Session}
    (held : crew.workers[worker]? = some (.serving number session)) (action : PeerAction) :
    crew.hear plan worker action
      = crew.settle worker number
          (action.onTurn plan.service { session, limiter := crew.limiter }) := by
  rw [hear, held]

theorem take_of_idle {worker number : Nat} {inbox : Inbox} {rest : List (Nat × Inbox)}
    (idle : crew.workers[worker]? = some .idle) (queue : crew.queue = (number, inbox) :: rest) :
    crew.take plan worker
      = { crew with queue := rest, starts := crew.starts ++ [(worker, number)] }.settle worker number
          (inbox.takeUp plan.service crew.limiter) := by
  rw [take, idle, queue]

/-- Whatever the peer of a worker does, the worker goes on with it, or is idle and takes the head of
the queue. -/
theorem Sound.freed (sound : Sound plan crew) {worker number : Nat} {session : Session}
    (held : crew.workers[worker]? = some (.serving number session)) (action : PeerAction) :
    let after := crew.hear plan worker action
    (number ∈ after.unfinished ∧ ∃ later, after.workers[worker]? = some (.serving number later))
      ∨ number ∉ after.unfinished ∧ after.workers[worker]? = some .idle
          ∧ ∀ next inbox rest, crew.queue = (next, inbox) :: rest →
              (after.take plan worker).starts = crew.starts ++ [(worker, next)]
                ∧ (after.take plan worker).queue = rest := by
  intro after
  have soundAfter : Sound plan after := sound.hear worker action
  have heard : after = _ := hear_of_serving held action
  let turn := action.onTurn plan.service { session, limiter := crew.limiter }
  have unstopped : turn.session.IsUnstopped :=
    Session.IsUnstopped.onTurn (sound.sessions (number, session)
      ((served_perm held).mem_iff.mpr List.mem_cons_self)) action
  have present := (List.getElem?_eq_some_iff.mp held).1
  have found : after.workers[worker]? = some (.after number turn.session) := by
    rw [heard]
    exact List.getElem?_set_self present
  obtain ⟨rest, before, behind⟩ := opened_settle_perm held turn
  have isOpen : number ∈ after.unfinished ↔
      number ∈ (if turn.session.isOver then [] else [number]) ++ rest := by
    rw [soundAfter.unfinished_perm.mem_iff, heard]
    exact behind.mem_iff
  have elsewhere : number ∉ rest :=
    (List.nodup_cons.mp (before.nodup_iff.mp sound.distinct)).1
  cases isOver : turn.session.isOver with
  | false =>
      rw [Worker.after_of_isOpen isOver] at found
      exact .inl ⟨isOpen.mpr (by simp [isOver]), _, found⟩
  | true =>
      rw [Worker.after_of_isOver unstopped isOver] at found
      refine .inr ⟨fun still => elsewhere (by simpa [isOver] using isOpen.mp still), found, ?_⟩
      intro next inbox queued queue
      have queueAfter : after.queue = (next, inbox) :: queued := by
        rw [heard]
        exact queue
      have startsAfter : after.starts = crew.starts := by
        rw [heard]
        rfl
      rw [take_of_idle found queueAfter, ← startsAfter]
      exact ⟨rfl, rfl⟩

/-- Workers that have come to rest keep to the schedule. -/
theorem Sound.scheduled (sound : Sound plan crew) (settled : crew.IsSettled) :
    crew.Scheduled plan where
  running := sound.running_eq
  served := sound.length_served_le
  queued := sound.queued
  busy waiting := sound.length_served (settled.resolve_left waiting)
  room := by
    have open' : crew.unfinished.length = crew.served.length + crew.queue.length := by
      rw [sound.unfinished_perm.length_eq, opened, List.length_append, List.length_map,
        List.length_map]
    have few := sound.length_served_le
    have size := plan.size_pos
    rw [hasRoom, decide_eq_true_eq, open']
    rcases settled with empty | noIdle
    · rw [empty, List.length_nil]
      omega
    · rw [sound.length_served noIdle]
      omega
  submitted := sound.sorted
  started := sound.started
  once := by
    have accepted : crew.accepted.Nodup := sound.sorted.imp Nat.ne_of_lt
    rw [← sound.started] at accepted
    exact (List.nodup_append.mp accepted).1
  own := sound.own
  freed := sound.freed

end Rest

end Crew

end AdmissionControl
