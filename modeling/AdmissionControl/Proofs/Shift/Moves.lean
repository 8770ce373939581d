import AdmissionControl.Pool.Shift
import AdmissionControl.Proofs.Session.Course
import Mathlib.Data.List.Perm.Basic

/-!
# What workers can do

The steps of one worker, and what they tell: each concerns one connection, and takes at most one line
of it. What is told of a connection can be read off the log.
-/

namespace AdmissionControl

namespace Shift

/-- The exchange of an event. -/
def Event.exchange? : Event → Option Exchange
  | .taken _ exchange => some exchange
  | .sent _ _ | .closed _ _ => none

/-- The exchange of an event on a connection. -/
def Event.exchangeOn? (number : Nat) : Event → Option Exchange
  | .taken other exchange => if other = number then some exchange else none
  | .sent _ _ | .closed _ _ => none

/-- The character that is sent on a connection. -/
def Event.characterOn? (number : Nat) : Event → Option Char
  | .sent other character => if other = number then some character else none
  | .taken _ _ | .closed _ _ => none

/-- The connection that an event closes. -/
def Event.closed? : Event → Option Nat
  | .closed number _ => some number
  | .taken _ _ | .sent _ _ => none

/-- The connection of an event. -/
def Event.number : Event → Nat
  | .taken number _ | .sent number _ | .closed number _ => number

/-- All exchanges in the course of events. -/
def exchanges (events : List Event) : List Exchange := events.filterMap Event.exchange?

/-- The exchanges on one connection. -/
def exchangesOn (events : List Event) (number : Nat) : List Exchange :=
  events.filterMap (Event.exchangeOn? number)

/-- What a peer has received. -/
def received (events : List Event) (number : Nat) : List Char :=
  events.filterMap (Event.characterOn? number)

/-- The connections that were closed. -/
def closedIn (events : List Event) : List Nat := events.filterMap Event.closed?

section

variable (earlier later : List Event) (number : Nat)

@[simp] theorem exchanges_append :
    exchanges (earlier ++ later) = exchanges earlier ++ exchanges later := List.filterMap_append

@[simp] theorem exchangesOn_append :
    exchangesOn (earlier ++ later) number
      = exchangesOn earlier number ++ exchangesOn later number := List.filterMap_append

@[simp] theorem received_append :
    received (earlier ++ later) number = received earlier number ++ received later number :=
  List.filterMap_append

@[simp] theorem closedIn_append :
    closedIn (earlier ++ later) = closedIn earlier ++ closedIn later := List.filterMap_append

end

section

variable (number : Nat) (taken : List Exchange)

@[simp] theorem exchanges_map_taken : exchanges (taken.map (Event.taken number)) = taken := by
  rw [exchanges, List.filterMap_map]
  exact List.filterMap_some

@[simp] theorem exchangesOn_map_taken :
    exchangesOn (taken.map (Event.taken number)) number = taken := by
  have own : Event.exchangeOn? number ∘ Event.taken number = some := funext fun _ => if_pos rfl
  rw [exchangesOn, List.filterMap_map, own, List.filterMap_some]

@[simp] theorem received_map_taken (other : Nat) :
    received (taken.map (Event.taken number)) other = [] := by
  rw [received, List.filterMap_map]
  exact List.filterMap_eq_nil_iff.mpr fun _ _ => rfl

@[simp] theorem closedIn_map_taken : closedIn (taken.map (Event.taken number)) = [] := by
  rw [closedIn, List.filterMap_map]
  exact List.filterMap_eq_nil_iff.mpr fun _ _ => rfl

end

section

variable {events : List Event} {number other : Nat}

/-- Events on other connections tell nothing of this one. -/
theorem exchangesOn_of_ne (own : ∀ event ∈ events, event.number = number)
    (different : other ≠ number) : exchangesOn events other = [] := by
  refine List.filterMap_eq_nil_iff.mpr fun event member => ?_
  have same := own event member
  cases event with
  | taken => exact if_neg fun equal => different (equal.symm.trans same)
  | sent | closed => rfl

theorem received_of_ne (own : ∀ event ∈ events, event.number = number)
    (different : other ≠ number) : received events other = [] := by
  refine List.filterMap_eq_nil_iff.mpr fun event member => ?_
  have same := own event member
  cases event with
  | sent => exact if_neg fun equal => different (equal.symm.trans same)
  | taken | closed => rfl

theorem mem_closedIn {ending : Option Session.Ending} (member : .closed number ending ∈ events) :
    number ∈ closedIn events := List.mem_filterMap.mpr ⟨_, member, rfl⟩

theorem exists_of_mem_closedIn (member : number ∈ closedIn events) :
    ∃ ending, Event.closed number ending ∈ events := by
  obtain ⟨event, present, isClosed⟩ := List.mem_filterMap.mp member
  cases event with
  | closed other ending => exact ⟨ending, Option.some.inj isClosed ▸ present⟩
  | taken | sent => cases isClosed

/-- Closing connections tells no exchange. -/
def Closings (events : List Event) : Prop :=
  ∀ event ∈ events, ∃ number ending, event = .closed number ending

theorem Closings.exchanges (closings : Closings events) : exchanges events = [] := by
  refine List.filterMap_eq_nil_iff.mpr fun event member => ?_
  obtain ⟨_, _, rfl⟩ := closings event member
  rfl

theorem Closings.exchangesOn (closings : Closings events) (number : Nat) :
    exchangesOn events number = [] := by
  refine List.filterMap_eq_nil_iff.mpr fun event member => ?_
  obtain ⟨_, _, rfl⟩ := closings event member
  rfl

theorem Closings.received (closings : Closings events) (number : Nat) :
    received events number = [] := by
  refine List.filterMap_eq_nil_iff.mpr fun event member => ?_
  obtain ⟨_, _, rfl⟩ := closings event member
  rfl

end

end Shift

/-- Every line has a reply. -/
theorem Exchange.reply_ne_nil (service : Service) {limiter last : Limiter} {exchange : Exchange}
    (serves : Serves service.tuning limiter [exchange] last) : exchange.reply ≠ [] := by
  cases serves with
  | refused fault => exact List.cons_ne_nil _ _
  | answered line =>
      change (answerLine service.tuning limiter line).reply ≠ []
      unfold answerLine
      split
      · next request _ =>
        cases request with
        | admission | stats => exact List.append_ne_nil_of_right_ne_nil _ (List.cons_ne_nil _ _)
        | complete => exact List.cons_ne_nil _ _
      · exact List.cons_ne_nil _ _

namespace Charge

open Shift (Event)

/-- What a worker does in one step with its connection: where the limiter is afterwards, what is told
of the connection, and how it is left. -/
inductive Works (service : Service) (limiter : Limiter) (charge : Charge) :
    Limiter → List Event → Charge → Prop where
  | reads (ready : charge.unsent = []) :
      Works service limiter charge (charge.turn service limiter).limiter
        ((charge.turn service limiter).exchanges.map (Event.taken charge.number))
        (charge.afterTurn (charge.turn service limiter))
  | sends {character : Char} {rest : List Char} (unsent : charge.unsent = character :: rest)
      (receiving : charge.inbox.gone = false) :
      Works service limiter charge limiter [.sent charge.number character]
        (charge.withUnsent rest)
  | loses (gone : charge.inbox.gone = true) :
      Works service limiter charge limiter [] (charge.giveUp .lost)
  | heeds (ready : charge.unsent = []) : Works service limiter charge limiter [] charge.heed
  | isAborted : Works service limiter charge limiter [] (charge.giveUp .aborted)

variable {service : Service} {limiter last : Limiter} {charge next : Charge} {events : List Event}

@[simp] theorem number_afterTurn (charge : Charge) (turn : Turn) :
    (charge.afterTurn turn).number = charge.number := rfl

@[simp] theorem number_withUnsent (charge : Charge) (rest : List Char) :
    (charge.withUnsent rest).number = charge.number := rfl

@[simp] theorem number_heed (charge : Charge) : charge.heed.number = charge.number := rfl

@[simp] theorem number_giveUp (charge : Charge) (ending : Session.Ending) :
    (charge.giveUp ending).number = charge.number := rfl

@[simp] theorem isDone_giveUp (charge : Charge) (ending : Session.Ending) :
    (charge.giveUp ending).isDone = true := rfl

theorem Works.number (works : charge.Works service limiter last events next) :
    next.number = charge.number := by
  cases works <;> rfl

/-- A step is told of its own connection, and closes none. -/
theorem Works.own (works : charge.Works service limiter last events next) :
    (∀ event ∈ events, event.number = charge.number) ∧ Shift.closedIn events = [] := by
  cases works with
  | reads =>
      refine ⟨fun event member => ?_, Shift.closedIn_map_taken ..⟩
      obtain ⟨_, _, rfl⟩ := List.mem_map.mp member
      rfl
  | sends =>
      refine ⟨fun event member => ?_, rfl⟩
      rw [List.mem_singleton.mp member]
      rfl
  | loses | heeds | isAborted => exact ⟨fun _ member => absurd member List.not_mem_nil, rfl⟩

/-- The turn of a worker is one with at most a byte, and perhaps with the end of the stream. -/
theorem turn_eq (service : Service) (limiter : Limiter) (charge : Charge) :
    let heard :=
      Turn.hear service { session := charge.session, limiter } (charge.inbox.bytes.take 1)
    (charge.turn service limiter).exchanges = heard.exchanges
      ∧ (charge.turn service limiter).limiter = heard.limiter
      ∧ ((charge.turn service limiter).session = heard.session
        ∨ charge.inbox.ended = true ∧ charge.inbox.bytes = []
          ∧ (charge.turn service limiter).session = heard.session.hearEnd) := by
  unfold turn
  dsimp only
  split
  · next atEnd =>
    simp only [Bool.and_eq_true, List.isEmpty_iff] at atEnd
    exact ⟨rfl, rfl, .inr ⟨atEnd.1, atEnd.2, rfl⟩⟩
  · exact ⟨rfl, rfl, .inl rfl⟩

/-- What a step tells accounts for the limiter. -/
theorem Works.serves (works : charge.Works service limiter last events next) :
    Serves service.tuning limiter (Shift.exchanges events) last := by
  cases works with
  | reads =>
      obtain ⟨exchanges, limiterEq, _⟩ := charge.turn_eq service limiter
      obtain ⟨new, newEq, served, _⟩ := Turn.goesOn_hear service
        { session := charge.session, limiter } (charge.inbox.bytes.take 1)
      rw [List.nil_append] at newEq
      rw [Shift.exchanges_map_taken, exchanges, limiterEq, newEq]
      exact served
  | sends | loses | heeds | isAborted => exact .nil _

end Charge

namespace Shift

open Pool (Plan)

/-- What can happen by itself, without peers. -/
inductive Moves (plan : Plan) (shift : Shift) : Shift → Prop where
  | rests : Moves plan shift shift
  | works {worker : Nat} {charge next : Charge} {limiter : Limiter} {events : List Event}
      (has : shift.duties[worker]? = some (.busy charge))
      (step : charge.Works plan.service shift.limiter limiter events next) :
      Moves plan shift ((shift.tell limiter events).settle worker next)
  | takes {worker number : Nat} {inbox : Inbox} {rest : List (Nat × Inbox)}
      (idle : shift.duties[worker]? = some .idle) (queue : shift.queue = (number, inbox) :: rest) :
      Moves plan shift (settle { shift with queue := rest } worker
        (.opening (decide (shift.phase ≠ .running)) number inbox))
  | stops {worker : Nat} (idle : shift.duties[worker]? = some .idle) :
      Moves plan shift { shift with duties := shift.duties.set worker .stopped }
  | begins (running : shift.phase = .running) :
      Moves plan shift
        { shift with duties := shift.duties.map (Duty.onCharge Charge.signal), phase := .draining }
  | concludes (draining : shift.phase = .draining) (noneRuns : shift.running = 0) :
      Moves plan shift
        { shift with
          phase := .stopped
          queue := []
          log := shift.log ++ shift.queue.map fun entry => .closed entry.1 none }

variable {plan : Plan} {shift : Shift}

@[simp] theorem tell_nil (shift : Shift) : shift.tell shift.limiter [] = shift := by
  simp [tell]

theorem moves_take (worker : Nat) : shift.Moves plan (shift.take worker) := by
  unfold take
  split
  · next idle queue => exact .takes idle queue
  · next idle _ =>
    split
    · exact .rests
    · exact .stops idle
  · exact .rests

theorem moves_read (worker : Nat) : shift.Moves plan (shift.read plan worker) := by
  unfold read
  split
  · next has =>
    split
    · next ready => exact .works has (.reads ready)
    · exact .rests
  · exact .rests

theorem moves_send (worker : Nat) : shift.Moves plan (shift.send worker) := by
  unfold send
  split
  · next has =>
    split
    · next unsent receiving => exact .works has (.sends unsent receiving)
    · exact .rests
  · exact .rests

theorem moves_lose (worker : Nat) : shift.Moves plan (shift.lose worker) := by
  unfold lose
  split
  · next charge has =>
    split
    · next gone =>
      have moves : shift.Moves plan _ := .works has (.loses gone)
      rwa [tell_nil] at moves
    · exact .rests
  · exact .rests

theorem moves_heed (worker : Nat) : shift.Moves plan (shift.heed worker) := by
  unfold heed
  split
  · exact .rests
  · split
    · next idle => exact .stops idle
    · next charge has =>
      split
      · next ready =>
        have moves : shift.Moves plan _ := .works has (.heeds ready)
        rwa [tell_nil] at moves
      · exact .rests
    · exact .rests

theorem moves_abort (worker : Nat) : shift.Moves plan (shift.abort worker) := by
  unfold abort
  split
  · exact .rests
  · split
    · next idle => exact .stops idle
    · next charge has =>
      have moves : shift.Moves plan _ := .works has .isAborted
      rwa [tell_nil] at moves
    · exact .rests

/-- Whether something is done by a peer. -/
def Action.isOfPeer : Action → Bool
  | .submit _ | .act _ _ => true
  | .take _ | .read _ | .send _ | .lose _ | .beginShutdown | .heed _ | .abort _ | .conclude => false

/-- The worker whose step an action is. -/
def Action.worker? : Action → Option Nat
  | .take worker | .read worker | .send worker | .lose worker | .heed worker | .abort worker =>
      some worker
  | .submit _ | .act _ _ | .beginShutdown | .conclude => none

/-- A worker's step changes what this worker has to do, if it does anything. -/
theorem duties_perform_of_worker {action : Action} {worker : Nat}
    (own : action.worker? = some worker) :
    (shift.perform plan action).duties = shift.duties
      ∨ ∃ duty, (shift.perform plan action).duties = shift.duties.set worker duty := by
  cases action with
  | submit | act | beginShutdown | conclude => cases own
  | take worker | read worker | send worker | lose worker | heed worker | abort worker =>
      cases own
      dsimp only [perform, take, read, send, lose, heed, abort]
      repeat' split
      all_goals first | exact .inl rfl | exact .inr ⟨_, rfl⟩

/-- Whatever is not done by a peer is one of these moves. -/
theorem moves_perform {action : Action} (own : action.isOfPeer = false) :
    shift.Moves plan (shift.perform plan action) := by
  cases action with
  | submit | act => cases own
  | take worker => exact moves_take worker
  | read worker => exact moves_read worker
  | send worker => exact moves_send worker
  | lose worker => exact moves_lose worker
  | beginShutdown =>
      unfold perform beginShutdown
      dsimp only
      split
      · next running => exact .begins running
      · exact .rests
  | heed worker => exact moves_heed worker
  | abort worker => exact moves_abort worker
  | conclude =>
      unfold perform conclude
      dsimp only
      split
      · next isOver => exact .concludes isOver.1 isOver.2
      · exact .rests

end Shift

end AdmissionControl
