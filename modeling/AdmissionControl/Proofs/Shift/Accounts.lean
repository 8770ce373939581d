import AdmissionControl.Proofs.Pool.Accounts
import AdmissionControl.Proofs.Shift.Moves

/-!
# What the log of a shift says

Whatever workers and peers do, in whatever order, the log is faithful to what the peers did: on every
connection it has exchanges over the first whole lines its peer sent, and the peer has received the
replies to them up to what is still to be sent, or was lost with a peer that has gone or with a
connection that was given up. Every connection is with one worker, queued or closed.
-/

namespace AdmissionControl

open Wire

/-- What was told of a connection is about the first whole lines of its peer. If some of the replies
is missing, the peer has gone or the connection was cut off. -/
def Inbox.Told (limit : Nat) (peer : Inbox) (exchanges : List Exchange) (received : List Char)
    (cut : Prop) : Prop :=
  Took limit peer.bytes exchanges
    ∧ ∃ missing, received ++ missing = exchanges.flatMap Exchange.reply
      ∧ (missing = [] ∨ peer.gone = true ∨ cut)

/-- Whatever the peer does next, what was told stays about the first whole lines it sent. -/
theorem Inbox.Told.onInbox {limit : Nat} {peer : Inbox} {exchanges : List Exchange}
    {received : List Char} {cut : Prop} (told : peer.Told limit exchanges received cut)
    (action : PeerAction) : (action.onInbox peer).Told limit exchanges received cut := by
  obtain ⟨took, missing, sent, why⟩ := told
  cases action with
  | send bytes =>
      unfold PeerAction.onInbox
      dsimp only
      split
      · exact ⟨took, missing, sent, why⟩
      · exact ⟨took.append bytes, missing, sent, why⟩
  | finish => exact ⟨took, missing, sent, why⟩
  | leave => exact ⟨took, missing, sent, .inr (.inl rfl)⟩

namespace Session

variable {service : Service} {session : Session} {seen : List UInt8} {exchanges : List Exchange}

/-- The daemon may begin to shut down while a session stands. -/
theorem Stands.signal (stands : (session.await service).Stands service.lineLimit seen exchanges) :
    (session.signal.await service).Stands service.lineLimit seen exchanges := by
  by_cases limit : service.lineLimit = 0
  · exact .inr ⟨isOver_await limit _, stands.took⟩
  · rw [await_of_lineLimit_ne_zero limit] at stands ⊢
    unfold Session.signal
    split
    · exact stands
    · next isOpen =>
      rcases stands with current | ⟨isOver, _⟩
      · exact .inl ⟨current.isOpen, current.begun, current.room, current.answered⟩
      · exact absurd isOver isOpen

/-- A session that hears of it stands or is over. -/
theorem Stands.heed (stands : (session.await service).Stands service.lineLimit seen exchanges) :
    (session.heed.await service).Stands service.lineLimit seen exchanges := by
  by_cases limit : service.lineLimit = 0
  · exact .inr ⟨isOver_await limit _, stands.took⟩
  · rw [await_of_lineLimit_ne_zero limit] at stands ⊢
    unfold Session.heed
    split
    · exact stands
    · exact .inr ⟨rfl, stands.took⟩

/-- The end of the stream leaves what was told. -/
theorem Stands.hearEnd (stands : session.Stands service.lineLimit seen exchanges) :
    session.hearEnd.Stands service.lineLimit seen exchanges :=
  .inr ⟨session.isOver_hearEnd, stands.took⟩

/-- A session that stands has turned to what its peer sends. -/
theorem Stands.await (stands : session.Stands service.lineLimit seen exchanges) :
    (session.await service).Stands service.lineLimit seen exchanges := by
  by_cases limit : service.lineLimit = 0
  · exact .inr ⟨isOver_await limit _, stands.took⟩
  · rwa [await_of_lineLimit_ne_zero limit]

end Session

namespace Charge

open Shift (Event)

/-- A connection follows its peer: it has been told of as far as it was looked at, and what was not
received of the replies is still to be sent, or will not be since the connection is over. -/
structure Follows (service : Service) (peer : Inbox) (exchanges : List Exchange)
    (received : List Char) (charge : Charge) : Prop where
  ended : charge.inbox.ended = peer.ended
  gone : charge.inbox.gone = peer.gone
  stands : ∃ seen, peer.bytes = seen ++ charge.inbox.bytes
    ∧ (charge.session.await service).Stands service.lineLimit seen exchanges
  sent : ∃ missing, received ++ charge.unsent ++ missing = exchanges.flatMap Exchange.reply
    ∧ (missing = [] ∨ charge.unsent = []
      ∧ (charge.session.ending = some .lost ∧ peer.gone = true
        ∨ charge.session.ending = some .aborted))

variable {service : Service} {peer : Inbox} {exchanges : List Exchange} {received : List Char}
  {limiter last : Limiter} {charge next : Charge} {events : List Event}

/-- A connection that a worker goes on with will have all replies sent. -/
theorem Follows.replies (follows : charge.Follows service peer exchanges received)
    (goesOn : charge.isDone = false) :
    received ++ charge.unsent = exchanges.flatMap Exchange.reply := by
  obtain ⟨missing, sent, rfl | ⟨unsent, ended⟩⟩ := follows.sent
  · rwa [List.append_nil] at sent
  · have isDone : charge.isDone = true := by
      rcases ended with ⟨lost, _⟩ | aborted
      · simp [isDone, unsent, Session.isOver, lost]
      · simp [isDone, unsent, Session.isOver, aborted]
    cases goesOn.symm.trans isDone

theorem Follows.took (follows : charge.Follows service peer exchanges received) :
    Took service.lineLimit peer.bytes exchanges := by
  obtain ⟨seen, bytes, stands⟩ := follows.stands
  exact bytes ▸ stands.took.append _

/-- What was told of a connection that a worker is done with. -/
theorem Follows.told (follows : charge.Follows service peer exchanges received)
    (isDone : charge.isDone = true) :
    peer.Told service.lineLimit exchanges received (charge.session.ending = some .aborted) := by
  simp only [Charge.isDone, Bool.and_eq_true, List.isEmpty_iff] at isDone
  obtain ⟨missing, sent, why⟩ := follows.sent
  rw [isDone.2, List.append_nil] at sent
  refine ⟨follows.took, missing, sent, ?_⟩
  rcases why with none | ⟨_, ⟨_, gone⟩ | aborted⟩
  · exact .inl none
  · exact .inr (.inl gone)
  · exact .inr (.inr aborted)

/-- A connection that is taken up. -/
theorem follows_opening (stopping : Bool) (number : Nat) (inbox : Inbox) :
    (opening stopping number inbox).Follows service inbox [] [] where
  ended := rfl
  gone := rfl
  stands := by
    refine ⟨[], rfl, ?_⟩
    cases stopping with
    | false => exact Turn.stands_opening service true
    | true => exact .inr ⟨by simp [opening, Session.opening, Session.await, Session.isOver],
        .answered [] rfl List.nil_prefix⟩
  sent := ⟨[], rfl, .inl rfl⟩

/-- A worker's turn with the next byte. -/
theorem Follows.reads (follows : charge.Follows service peer exchanges received)
    (ready : charge.unsent = []) (goesOn : charge.isDone = false) (limiter : Limiter) :
    let turn := charge.turn service limiter
    (charge.afterTurn turn).Follows service peer (exchanges ++ turn.exchanges) received := by
  intro turn
  have replies := follows.replies goesOn
  obtain ⟨ended, gone, ⟨seen, bytes, stands⟩, _⟩ := follows
  have heard : (Turn.hear service { session := charge.session, limiter }
      (charge.inbox.bytes.take 1)).session.Stands service.lineLimit
        (seen ++ charge.inbox.bytes.take 1) (exchanges ++ turn.exchanges) := by
    let awaited : Turn := { session := charge.session.await service, limiter }
    have before : awaited.session.Stands service.lineLimit seen (exchanges ++ awaited.exchanges) := by
      rwa [List.append_nil]
    have after := Turn.stands_hear (charge.inbox.bytes.take 1) before
    have same : awaited.hear service (charge.inbox.bytes.take 1) = _ :=
      Turn.hear_await service { session := charge.session, limiter } _
    rw [same] at after
    rwa [(charge.turn_eq service limiter).1]
  refine ⟨ended, gone, ⟨seen ++ charge.inbox.bytes.take 1, ?_, ?_⟩, [], ?_, .inl rfl⟩
  · rw [bytes, List.append_assoc]
    refine congrArg (seen ++ ·) ?_
    change _ = _ ++ charge.inbox.bytes.tail
    rw [← List.drop_one, List.take_append_drop]
  · have session : (charge.afterTurn turn).session = turn.session := rfl
    rw [session]
    rcases (charge.turn_eq service limiter).2.2 with same | ⟨_, _, same⟩
    · exact same ▸ heard.await
    · exact same ▸ heard.hearEnd.await
  · rw [ready, List.append_nil] at replies
    rw [List.append_nil, List.flatMap_append, ← replies]
    rfl

/-- A reply goes on being sent. -/
theorem Follows.sends (follows : charge.Follows service peer exchanges received)
    (goesOn : charge.isDone = false) {character : Char} {rest : List Char}
    (unsent : charge.unsent = character :: rest) :
    (charge.withUnsent rest).Follows service peer exchanges (received ++ [character]) := by
  have replies := follows.replies goesOn
  obtain ⟨ended, gone, ⟨seen, bytes, stands⟩, _⟩ := follows
  refine ⟨ended, gone, ⟨seen, bytes, ?_⟩, [], ?_, .inl rfl⟩
  · unfold withUnsent
    dsimp only
    split
    · exact stands.heed
    · exact stands
  · rw [unsent] at replies
    rw [List.append_nil, ← replies, List.append_assoc]
    rfl

theorem Follows.heeds (follows : charge.Follows service peer exchanges received)
    (goesOn : charge.isDone = false) : charge.heed.Follows service peer exchanges received := by
  have replies := follows.replies goesOn
  obtain ⟨ended, gone, ⟨seen, bytes, stands⟩, _⟩ := follows
  refine ⟨ended, gone, ⟨seen, bytes, stands.heed⟩, [], ?_, .inl rfl⟩
  rw [List.append_nil]
  exact replies

/-- A connection that is given up. -/
theorem Follows.givesUp (follows : charge.Follows service peer exchanges received)
    (goesOn : charge.isDone = false) {ending : Session.Ending}
    (why : ending = .lost ∧ peer.gone = true ∨ ending = .aborted) :
    (charge.giveUp ending).Follows service peer exchanges received := by
  have replies := follows.replies goesOn
  obtain ⟨ended, gone, ⟨seen, bytes, stands⟩, _⟩ := follows
  refine ⟨ended, gone, ⟨seen, bytes, .inr ⟨?_, stands.took⟩⟩, charge.unsent, ?_, .inr ⟨rfl, ?_⟩⟩
  · simp [giveUp, Session.await, Session.isOver]
  · rw [show (charge.giveUp ending).unsent = [] from rfl, List.append_nil]
    exact replies
  · exact why.imp (And.imp_left (congrArg some)) (congrArg some)

/-- Any step of a worker leaves a connection following its peer. -/
theorem Works.follows (works : charge.Works service limiter last events next)
    (follows : charge.Follows service peer exchanges received) (goesOn : charge.isDone = false) :
    next.Follows service peer (exchanges ++ Shift.exchangesOn events charge.number)
      (received ++ Shift.received events charge.number) := by
  cases works with
  | reads ready =>
      rw [Shift.exchangesOn_map_taken, Shift.received_map_taken, List.append_nil]
      exact follows.reads ready goesOn limiter
  | @sends character rest unsent receiving =>
      have told : Shift.received [.sent charge.number character] charge.number = [character] := by
        simp [Shift.received, Event.characterOn?]
      rw [told, show Shift.exchangesOn [.sent charge.number character] charge.number = [] from rfl,
        List.append_nil]
      exact follows.sends goesOn unsent
  | loses gone =>
      simp only [Shift.exchangesOn, Shift.received, List.filterMap_nil, List.append_nil]
      exact follows.givesUp goesOn (.inl ⟨rfl, follows.gone ▸ gone⟩)
  | heeds ready =>
      simp only [Shift.exchangesOn, Shift.received, List.filterMap_nil, List.append_nil]
      exact follows.heeds goesOn
  | isAborted =>
      simp only [Shift.exchangesOn, Shift.received, List.filterMap_nil, List.append_nil]
      exact follows.givesUp goesOn (.inr rfl)

/-- The peer does something, at which the worker has not looked. -/
theorem Follows.onInbox (follows : charge.Follows service peer exchanges received)
    (action : PeerAction) :
    ({ charge with inbox := action.onInbox charge.inbox } : Charge).Follows service
      (action.onInbox peer) exchanges received := by
  obtain ⟨ended, gone, ⟨seen, bytes, stands⟩, missing, sent, why⟩ := follows
  cases action with
  | send more =>
      unfold PeerAction.onInbox
      dsimp only
      rw [ended]
      split
      · exact ⟨ended, gone, ⟨seen, bytes, stands⟩, missing, sent, why⟩
      · refine ⟨rfl, gone, ⟨seen, ?_, stands⟩, missing, sent, why⟩
        rw [bytes, List.append_assoc]
  | finish => exact ⟨rfl, gone, ⟨seen, bytes, stands⟩, missing, sent, why⟩
  | leave =>
      exact ⟨rfl, rfl, ⟨seen, bytes, stands⟩, missing, sent,
        why.imp_right (And.imp_right (Or.imp_left fun ended => ⟨ended.1, rfl⟩))⟩

/-- The daemon begins to shut down. -/
theorem Follows.signal (follows : charge.Follows service peer exchanges received) :
    charge.signal.Follows service peer exchanges received := by
  obtain ⟨ended, gone, ⟨seen, bytes, stands⟩, missing, sent, why⟩ := follows
  refine ⟨ended, gone, ⟨seen, bytes, stands.signal⟩, missing, sent, why.imp_right ?_⟩
  have same : charge.session.signal.ending = charge.session.ending := by
    unfold Session.signal
    split <;> rfl
  exact fun ended => ⟨ended.1, same.symm ▸ ended.2⟩

theorem isDone_signal (charge : Charge) : charge.signal.isDone = charge.isDone := by
  unfold isDone signal Session.signal
  dsimp only
  split <;> rfl

end Charge

theorem Duty.charge?_after (charge : Charge) :
    (Duty.after charge).charge? = if charge.isDone then none else some charge := by
  unfold Duty.after
  split
  · split <;> rfl
  · rfl

/-- A worker that still has a connection is not done with it. -/
theorem Duty.eq_of_after {charge other : Charge} (isBusy : Duty.after charge = .busy other) :
    charge.isDone = false ∧ other = charge := by
  have isCharge := congrArg Duty.charge? isBusy
  rw [charge?_after] at isCharge
  split at isCharge
  · cases isCharge
  · next goesOn => exact ⟨Bool.eq_false_iff.mpr goesOn, (Option.some.inj isCharge).symm⟩

namespace Shift

open Pool (Plan)

/-- The connections that are with a worker or queued. -/
def opened (shift : Shift) : List Nat :=
  shift.charges.map Charge.number ++ shift.queue.map Prod.fst

/-- The connections of all workers but one. -/
def others (shift : Shift) (worker : Nat) : List Charge :=
  (shift.duties.eraseIdx worker).filterMap Duty.charge?

/-- What was told is true of what the peers did, whoever has their connections. -/
structure Truthful (plan : Plan) (peers : List Inbox) (shift : Shift) : Prop where
  counted : shift.arrivals = peers.length
  /-- What waits is all that the peer did, and nothing of it has been told. -/
  waiting : ∀ entry ∈ shift.queue, peers[entry.1]? = some entry.2
    ∧ exchangesOn shift.log entry.1 = [] ∧ received shift.log entry.1 = []
  closed : ∀ number ∈ closedIn shift.log, ∃ peer, peers[number]? = some peer
    ∧ peer.Told plan.service.lineLimit (exchangesOn shift.log number) (received shift.log number)
      (.closed number (some .aborted) ∈ shift.log)
  /-- Nothing was told of connections that do not exist. -/
  unknown : ∀ number, peers.length ≤ number →
    exchangesOn shift.log number = [] ∧ received shift.log number = []
  /-- What was told accounts for the limiter. -/
  limiter : Serves plan.service.tuning (.fresh plan.service.tuning) (exchanges shift.log)
    shift.limiter

/-- A worker follows its peer in what was told of its connection. -/
def Attends (plan : Plan) (peers : List Inbox) (shift : Shift) (charge : Charge) : Prop :=
  charge.isDone = false ∧ ∃ peer, peers[charge.number]? = some peer
    ∧ charge.Follows plan.service peer (exchangesOn shift.log charge.number)
      (received shift.log charge.number)

/-- The shift is faithful to what its peers did. -/
structure Faithful (plan : Plan) (peers : List Inbox) (shift : Shift) : Prop
    extends Truthful plan peers shift where
  /-- Every connection that was submitted is open or closed, and not both. -/
  accounted : (shift.opened ++ closedIn shift.log).Perm (List.range shift.arrivals)
  busy : ∀ {worker : Nat} {charge : Charge}, shift.duties[worker]? = some (.busy charge) →
    shift.Attends plan peers charge

/-- The shift is faithful apart from one connection, which is going to be with a worker. -/
structure FaithfulBut (plan : Plan) (peers : List Inbox) (worker number : Nat) (shift : Shift) :
    Prop extends Truthful plan peers shift where
  present : worker < shift.duties.length
  accounted : (number :: ((shift.others worker).map Charge.number ++ shift.queue.map Prod.fst)
    ++ closedIn shift.log).Perm (List.range shift.arrivals)
  busy : ∀ {other : Nat} {charge : Charge}, other ≠ worker →
    shift.duties[other]? = some (.busy charge) → shift.Attends plan peers charge

variable {plan : Plan} {peers : List Inbox} {shift : Shift} {worker number : Nat}

section Replacing

variable {duty : Duty}

theorem charges_perm (found : shift.duties[worker]? = some duty) :
    shift.charges.Perm (duty.charge?.toList ++ shift.others worker) := by
  obtain ⟨present, rfl⟩ := List.getElem?_eq_some_iff.mp found
  have perm := (List.getElem_cons_eraseIdx_perm present).symm.filterMap Duty.charge?
  refine perm.trans (.of_eq ?_)
  rw [List.filterMap_cons, others]
  cases (shift.duties[worker]).charge? <;> rfl

theorem charges_set_perm (present : worker < shift.duties.length) (new : Duty) :
    ((shift.duties.set worker new).filterMap Duty.charge?).Perm
      (new.charge?.toList ++ shift.others worker) := by
  have perm := (List.set_perm_cons_eraseIdx present new).filterMap Duty.charge?
  refine perm.trans (.of_eq ?_)
  rw [List.filterMap_cons, others]
  cases new.charge? <;> rfl

theorem exists_worker {charge : Charge} (has : charge ∈ shift.charges) :
    ∃ worker : Nat, shift.duties[worker]? = some (.busy charge) := by
  obtain ⟨duty, present, isCharge⟩ := List.mem_filterMap.mp has
  obtain ⟨index, found⟩ := List.mem_iff_getElem?.mp present
  cases duty with
  | idle | stopped => cases isCharge
  | busy other =>
      cases isCharge
      exact ⟨index, found⟩

theorem mem_charges {charge : Charge} (found : shift.duties[worker]? = some (.busy charge)) :
    charge ∈ shift.charges :=
  List.mem_filterMap.mpr ⟨_, List.mem_of_getElem? found, rfl⟩

end Replacing

/-- The connection of one worker is none of the others'. -/
theorem FaithfulBut.ne (but : FaithfulBut plan peers worker number shift) {other : Nat}
    (elsewhere : other ∈ (shift.others worker).map Charge.number ++ shift.queue.map Prod.fst
      ++ closedIn shift.log) : other ≠ number := by
  have distinct := but.accounted.nodup_iff.mpr List.nodup_range
  rw [List.cons_append] at distinct
  exact fun same => (List.nodup_cons.mp distinct).1 (same ▸ elsewhere)

theorem mem_others {other : Nat} {charge : Charge} (different : other ≠ worker)
    (found : shift.duties[other]? = some (.busy charge)) : charge ∈ shift.others worker :=
  List.mem_filterMap.mpr ⟨_, List.mem_eraseIdx_iff_getElem?.mpr ⟨other, different, found⟩, rfl⟩

/-- What a worker is done with is closed. -/
theorem closing_eq (charge : Charge) :
    let closing : List Event :=
      if charge.isDone then [.closed charge.number charge.session.ending] else []
    Closings closing ∧ closedIn closing = if charge.isDone then [charge.number] else [] := by
  dsimp only
  split
  · exact ⟨fun event member => ⟨_, _, List.mem_singleton.mp member⟩, rfl⟩
  · exact ⟨fun event member => absurd member List.not_mem_nil, rfl⟩

/-- What a worker's turn makes of the log. -/
theorem log_settle (shift : Shift) (worker : Nat) (charge : Charge) (number : Nat) :
    let after := shift.settle worker charge
    exchanges after.log = exchanges shift.log
      ∧ exchangesOn after.log number = exchangesOn shift.log number
      ∧ received after.log number = received shift.log number
      ∧ closedIn after.log
        = closedIn shift.log ++ if charge.isDone then [charge.number] else [] := by
  obtain ⟨closings, closed⟩ := closing_eq charge
  unfold settle
  dsimp only
  rw [exchanges_append, exchangesOn_append, received_append, closedIn_append, closings.exchanges,
    closings.exchangesOn, closings.received, closed]
  simp only [List.append_nil, and_self]

/-- A connection comes to be with a worker, or closed. -/
theorem FaithfulBut.settle (but : FaithfulBut plan peers worker number shift) {next : Charge}
    (same : next.number = number) {peer : Inbox} (found : peers[number]? = some peer)
    (follows : next.Follows plan.service peer (exchangesOn shift.log number)
      (received shift.log number)) : Faithful plan peers (shift.settle worker next) := by
  subst same
  have told (other : Nat) := log_settle shift worker next other
  have grows {event : Event} (member : event ∈ shift.log) :
      event ∈ (shift.settle worker next).log := List.mem_append_left _ member
  refine ⟨⟨but.counted, fun entry member => ?_, fun other member => ?_, fun other beyond => ?_, ?_⟩,
    ?_, fun {other charge} has => ?_⟩
  · rw [(told entry.1).2.1, (told entry.1).2.2.1]
    exact but.waiting entry member
  · rw [(told other).2.2.2] at member
    rw [(told other).2.1, (told other).2.2.1]
    rcases List.mem_append.mp member with earlier | own
    · obtain ⟨peer, found, took, missing, sent, why⟩ := but.closed other earlier
      exact ⟨peer, found, took, missing, sent, why.imp_right (Or.imp_right grows)⟩
    · split at own
      · next isDone =>
        rw [List.mem_singleton.mp own]
        obtain ⟨took, missing, sent, why⟩ := follows.told isDone
        refine ⟨peer, found, took, missing, sent, why.imp_right (Or.imp_right fun aborted => ?_)⟩
        refine List.mem_append_right _ ?_
        rw [if_pos isDone, aborted]
        exact List.mem_singleton_self _
      · cases own
  · rw [(told other).2.1, (told other).2.2.1]
    exact but.unknown other beyond
  · rw [(told 0).1]
    exact but.limiter
  · have charges := (charges_set_perm but.present (.after next)).map Charge.number
    rw [List.map_append, Duty.charge?_after] at charges
    refine .trans ?_ but.accounted
    rw [(told 0).2.2.2]
    refine ((charges.append_right _).append_right _).trans ?_
    split
    · simp only [Option.toList_none, List.map_nil, List.nil_append]
      rw [← List.append_assoc]
      exact List.perm_append_singleton _ _
    · simp only [Option.toList_some, List.map_cons, List.map_nil, List.append_nil]
      exact .refl _
  · rw [Attends, (told charge.number).2.1, (told charge.number).2.2.1]
    by_cases own : other = worker
    · subst own
      rw [Shift.settle, List.getElem?_set_self but.present] at has
      obtain ⟨goesOn, rfl⟩ := Duty.eq_of_after (Option.some.inj has)
      exact ⟨goesOn, peer, found, follows⟩
    · rw [Shift.settle, List.getElem?_set_ne (Ne.symm own)] at has
      exact but.busy own has

/-- Something is told of the connection that is going to be with a worker. -/
theorem FaithfulBut.tell (but : FaithfulBut plan peers worker number shift) {limiter : Limiter}
    {events : List Event} (own : ∀ event ∈ events, event.number = number)
    (silent : closedIn events = []) (known : number < peers.length)
    (serves : Serves plan.service.tuning shift.limiter (exchanges events) limiter) :
    FaithfulBut plan peers worker number (shift.tell limiter events) := by
  have closed : closedIn (shift.log ++ events) = closedIn shift.log := by
    rw [closedIn_append, silent, List.append_nil]
  have elsewhere {other : Nat} (different : other ≠ number) :
      exchangesOn (shift.log ++ events) other = exchangesOn shift.log other
        ∧ received (shift.log ++ events) other = received shift.log other := by
    rw [exchangesOn_append, received_append, exchangesOn_of_ne own different,
      received_of_ne own different, List.append_nil, List.append_nil]
    exact ⟨rfl, rfl⟩
  refine ⟨⟨but.counted, fun entry member => ?_, fun other member => ?_, fun other beyond => ?_, ?_⟩,
    but.present, ?_, fun {other charge} different has => ?_⟩
  · have different : entry.1 ≠ number := but.ne (List.mem_append_left _
      (List.mem_append_right _ (List.mem_map.mpr ⟨entry, member, rfl⟩)))
    rw [Shift.tell, (elsewhere different).1, (elsewhere different).2]
    exact but.waiting entry member
  · rw [Shift.tell, closed] at member
    have different : other ≠ number := but.ne (List.mem_append_right _ member)
    obtain ⟨peer, found, took, missing, sent, why⟩ := but.closed other member
    rw [Shift.tell, (elsewhere different).1, (elsewhere different).2]
    exact ⟨peer, found, took, missing, sent,
      why.imp_right (Or.imp_right (List.mem_append_left _))⟩
  · have different : other ≠ number := by omega
    rw [Shift.tell, (elsewhere different).1, (elsewhere different).2]
    exact but.unknown other beyond
  · rw [Shift.tell, exchanges_append]
    exact but.limiter.append serves
  · rw [Shift.tell, closed]
    exact but.accounted
  · have different : charge.number ≠ number := but.ne (List.mem_append_left _
      (List.mem_append_left _ (List.mem_map.mpr ⟨charge, mem_others different has, rfl⟩)))
    rw [Attends, Shift.tell, (elsewhere different).1, (elsewhere different).2]
    exact but.busy ‹_› has

/-- A worker has a connection. -/
theorem Faithful.but (faithful : Faithful plan peers shift) {charge : Charge}
    (has : shift.duties[worker]? = some (.busy charge)) :
    FaithfulBut plan peers worker charge.number shift where
  toTruthful := faithful.toTruthful
  present := (List.getElem?_eq_some_iff.mp has).1
  accounted := by
    have charges := ((charges_perm has).map Charge.number).symm
    exact ((charges.append_right _).append_right _).trans faithful.accounted
  busy _ has := faithful.busy has

/-- An idle worker takes the first connection of the queue. -/
theorem Faithful.butQueued (faithful : Faithful plan peers shift)
    (idle : shift.duties[worker]? = some .idle) {inbox : Inbox} {rest : List (Nat × Inbox)}
    (queue : shift.queue = (number, inbox) :: rest) :
    FaithfulBut plan peers worker number { shift with queue := rest } where
  counted := faithful.counted
  waiting entry member := faithful.waiting entry (queue ▸ List.mem_cons_of_mem _ member)
  closed := faithful.closed
  unknown := faithful.unknown
  limiter := faithful.limiter
  present := (List.getElem?_eq_some_iff.mp idle).1
  accounted := by
    have accounted := faithful.accounted
    rw [opened, queue] at accounted
    have charges := ((charges_perm idle).map Charge.number).symm
    refine .trans (List.Perm.append_right _ ?_) accounted
    exact (List.perm_middle.symm).trans (charges.append_right _)
  busy _ has := faithful.busy has

/-- A step of a worker with its connection. -/
theorem Faithful.works (faithful : Faithful plan peers shift) {charge next : Charge}
    {limiter : Limiter} {events : List Event} (has : shift.duties[worker]? = some (.busy charge))
    (works : charge.Works plan.service shift.limiter limiter events next) :
    Faithful plan peers ((shift.tell limiter events).settle worker next) := by
  obtain ⟨goesOn, peer, found, follows⟩ := faithful.busy has
  obtain ⟨own, silent⟩ := works.own
  have known := (List.getElem?_eq_some_iff.mp found).1
  have told := (faithful.but has).tell own silent known works.serves
  refine told.settle works.number found ?_
  rw [Shift.tell, exchangesOn_append, received_append]
  exact works.follows follows goesOn

end Shift

end AdmissionControl
