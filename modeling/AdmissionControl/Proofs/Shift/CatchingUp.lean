import AdmissionControl.Proofs.Pool.Schedule
import AdmissionControl.Proofs.Session.Pieces
import AdmissionControl.Proofs.Shift.Faithful

/-!
# A worker catches up with its peer

A worker that is let go on alone reads all that its peer has sent, and sends the reply to each line
before it reads on. In this way it comes to where a worker is that does all this in one turn.
-/

namespace AdmissionControl

open Wire

namespace Session

variable {service : Service}

theorem reachable_await (session : Session) :
    (session.await service).reachable = session.reachable := by
  unfold await
  split <;> rfl

/-- Turning to what the peer sends has nothing to do with what it can receive. -/
theorem await_withReachable (session : Session) (reachable : Bool) :
    ({ session with reachable } : Session).await service
      = { session.await service with reachable } := by
  have same : ({ session with reachable } : Session).isOver = session.isOver := rfl
  unfold await
  rw [same]
  split <;> rfl

theorem hearEnd_withReachable (session : Session) (reachable : Bool) :
    ({ session with reachable } : Session).hearEnd = { session.hearEnd with reachable } := by
  have same : ({ session with reachable } : Session).isOver = session.isOver := rfl
  unfold hearEnd
  rw [same]
  split <;> rfl

end Session

namespace Shift

open Pool (Plan)

/-- Events tell what happened in a pool as well: the same lines were taken, the same characters
received and the same connections closed. -/
structure Tells (events : List Event) (shown : List Pool.Event) : Prop where
  taken : events.filterMap (fun event => event.exchange?.map (event.number, ·))
    = shown.filterMap fun event => event.exchange?.map (event.number, ·)
  received : ∀ number, received events number = (Pool.sight shown number).received
  closed : (closedIn events).Perm (shown.filterMap Crew.closed?)

theorem tells_nil : Tells [] [] := ⟨rfl, fun _ => rfl, .nil⟩

theorem Tells.append {first second : List Event} {shown more : List Pool.Event}
    (begun : Tells first shown) (ended : Tells second more) :
    Tells (first ++ second) (shown ++ more) where
  taken := by
    rw [List.filterMap_append, List.filterMap_append, begun.taken, ended.taken]
  received number := by
    rw [received_append, begun.received, ended.received]
    exact List.flatMap_append.symm
  closed := by
    rw [closedIn_append, List.filterMap_append]
    exact begun.closed.append ended.closed

/-- An exchange, and the characters of the reply that arrive. -/
theorem tells_exchange (number : Nat) (exchange : Exchange) (delivered : Bool) :
    Tells (.taken number exchange
        :: if delivered then exchange.reply.map (Event.sent number) else [])
      [.exchanged number exchange delivered] where
  taken := by
    refine congrArg ((number, exchange) :: ·) ?_
    split
    · rw [List.filterMap_map]
      exact List.filterMap_eq_nil_iff.mpr fun _ _ => rfl
    · rfl
  received other := by
    cases delivered with
    | false => simp [Shift.received, Event.characterOn?, Pool.sight]
    | true =>
        by_cases same : number = other
        · have own : Event.characterOn? other ∘ Event.sent number = some :=
            funext fun _ => if_pos same
          simp only [Shift.received, Pool.sight, if_true]
          rw [List.filterMap_cons_none rfl, List.filterMap_map, own]
          simp [same]
        · have elsewhere : Event.characterOn? other ∘ Event.sent number = fun _ => none :=
            funext fun _ => if_neg same
          simp only [Shift.received, Pool.sight, if_true]
          rw [List.filterMap_cons_none rfl, List.filterMap_map, elsewhere]
          simp [same]
  closed := by
    refine .of_eq (Eq.trans (List.filterMap_cons_none rfl) ?_)
    split
    · rw [List.filterMap_map]
      exact List.filterMap_eq_nil_iff.mpr fun _ _ => rfl
    · rfl

section Settling

variable {shift : Shift} {worker : Nat} {charge next : Charge}

theorem settle_eq_of_isDone (isDone : charge.isDone = true) (alsoDone : next.isDone = true)
    (number : charge.number = next.number) (ending : charge.session.ending = next.session.ending) :
    shift.settle worker charge = shift.settle worker next := by
  have duty : Duty.after charge = .after next := by
    rw [Duty.after, Duty.after, if_pos isDone, if_pos alsoDone, ending]
  rw [settle, settle, duty, if_pos isDone, if_pos alsoDone, number, ending]

theorem after_of_goesOn (goesOn : charge.isDone = false) : Duty.after charge = .busy charge :=
  if_neg (by simp [goesOn])

/-- A worker that is not done with its connection has it. -/
theorem getElem?_settle (present : worker < shift.duties.length) (goesOn : charge.isDone = false) :
    (shift.settle worker charge).duties[worker]? = some (.busy charge) := by
  rw [settle, List.getElem?_set_self present, after_of_goesOn goesOn]

/-- Two steps of a worker with one connection. -/
theorem settle_settle (goesOn : charge.isDone = false) (first second : Limiter)
    (events more : List Event) :
    (((shift.tell first events).settle worker charge).tell second more).settle worker next
      = (shift.tell second (events ++ more)).settle worker next := by
  simp only [settle, tell, goesOn, List.set_set, Bool.false_eq_true, if_false, List.append_nil,
    List.append_assoc]

theorem read_of_ready (plan : Plan) (has : shift.duties[worker]? = some (.busy charge))
    (ready : charge.unsent = []) :
    shift.read plan worker
      = (shift.tell (charge.turn plan.service shift.limiter).limiter
          ((charge.turn plan.service shift.limiter).exchanges.map
            (Event.taken charge.number))).settle worker
          (charge.afterTurn (charge.turn plan.service shift.limiter)) := by
  rw [read, has]
  exact if_pos ready

theorem send_of_unsent (has : shift.duties[worker]? = some (.busy charge)) {character : Char}
    {rest : List Char} (unsent : charge.unsent = character :: rest)
    (receiving : charge.inbox.gone = false) :
    shift.send worker
      = (shift.tell shift.limiter [.sent charge.number character]).settle worker
          (charge.withUnsent rest) := by
  simp only [send, has, unsent, receiving]

theorem lose_of_gone (has : shift.duties[worker]? = some (.busy charge))
    (gone : charge.inbox.gone = true) :
    shift.lose worker = shift.settle worker (charge.giveUp .lost) := by
  rw [lose, has]
  exact if_pos gone

end Settling

section Reaching

/-- Workers come from one state to another by themselves. -/
def Reaches (plan : Plan) (shift last : Shift) : Prop :=
  ∃ moves : List Action, (∀ move ∈ moves, move.isOfPeer = false) ∧ shift.after plan moves = last

variable {plan : Plan} {shift middle last : Shift} {worker : Nat}

theorem Reaches.refl (plan : Plan) (shift : Shift) : shift.Reaches plan shift :=
  ⟨[], fun _ member => absurd member List.not_mem_nil, rfl⟩

theorem Reaches.trans (begun : shift.Reaches plan middle) (ended : middle.Reaches plan last) :
    shift.Reaches plan last := by
  obtain ⟨first, own, rfl⟩ := begun
  obtain ⟨second, alsoOwn, rfl⟩ := ended
  refine ⟨first ++ second, fun move member => ?_, List.foldl_append⟩
  exact (List.mem_append.mp member).elim (own move) (alsoOwn move)

theorem reaches_perform (action : Action) (own : action.isOfPeer = false) :
    shift.Reaches plan (shift.perform plan action) :=
  ⟨[action], fun _ member => List.mem_singleton.mp member ▸ own, rfl⟩

/-- A worker sends the whole of a reply. -/
theorem reaches_sends (rest : List Char) {character : Char} {charge : Charge}
    (has : shift.duties[worker]? = some (.busy charge))
    (unsent : charge.unsent = character :: rest) (receiving : charge.inbox.gone = false) :
    shift.Reaches plan
      ((shift.tell shift.limiter ((character :: rest).map (Event.sent charge.number))).settle worker
        (charge.withUnsent [])) := by
  induction rest generalizing shift character charge with
  | nil =>
      rw [List.map_singleton, ← send_of_unsent has unsent receiving]
      exact reaches_perform (.send worker) rfl
  | cons following rest inductionHypothesis =>
      have goesOn : (charge.withUnsent (following :: rest)).isDone = false := by
        simp [Charge.isDone, Charge.withUnsent]
      have present := (List.getElem?_eq_some_iff.mp has).1
      have sent := send_of_unsent has unsent receiving
      have hasStill : (shift.send worker).duties[worker]?
          = some (.busy (charge.withUnsent (following :: rest))) :=
        sent ▸ getElem?_settle present goesOn
      have begun : shift.Reaches plan (shift.send worker) := reaches_perform (.send worker) rfl
      have ended := begun.trans (inductionHypothesis hasStill rfl receiving)
      rw [sent, settle_settle goesOn] at ended
      exact ended

end Reaching

end Shift

namespace Turn

/-- A turn with one byte of a session whose peer can receive, and one of the same session if its peer
perhaps cannot: they differ in that the reply to a line then ends the session. -/
structure Matches (receiving : Bool) (alone shown : Turn) : Prop where
  exchanges : shown.exchanges = alone.exchanges
  limiter : shown.limiter = alone.limiter
  reachable : alone.session.reachable = true
  session : alone.exchanges = [] ∧ shown.session = { alone.session with reachable := receiving }
    ∨ ∃ exchange, alone.exchanges = [exchange] ∧ alone.session.partialLine = []
      ∧ (alone.session.stopping = true → alone.session.isOver = true)
      ∧ shown.session = { alone.session with
          reachable := receiving
          ending := if receiving then alone.session.ending else some .lost }

section

variable {service : Service} {limiter : Limiter} {session : Session}

theorem matches_refuse (reachable : session.reachable = true) (receiving : Bool) (fault : Fault) :
    Matches receiving (refuse { session, limiter } fault)
      (refuse { session := { session with reachable := receiving }, limiter } fault) where
  exchanges := rfl
  limiter := rfl
  reachable := reachable
  session := by
    refine .inr ⟨_, rfl, rfl, fun _ => rfl, ?_⟩
    cases receiving <;> simp [refuse, reachable]

theorem matches_takeLine (reachable : session.reachable = true) (receiving : Bool)
    (line : List UInt8) :
    Matches receiving (takeLine service { session, limiter } line)
      (takeLine service { session := { session with reachable := receiving }, limiter } line) := by
  unfold takeLine
  split
  · refine ⟨rfl, rfl, reachable, .inr ⟨_, rfl, rfl, fun stopping => ?_, ?_⟩⟩
    · have stops : session.stopping = true := stopping
      simp [answerWith, reachable, stops, Session.isOver]
    · cases receiving <;> simp [answerWith, reachable]
  · exact matches_refuse reachable receiving _

/-- One byte is taken alike, whether the peer can receive or not. -/
theorem matches_hear (reachable : session.reachable = true) (isOpen : session.isOver = false)
    (receiving : Bool) (byte : UInt8) :
    Matches receiving (hear service { session, limiter } [byte])
      (hear service { session := { session with reachable := receiving }, limiter } [byte]) := by
  by_cases limit : service.lineLimit = 0
  · have closes (session : Session) (isOpen : session.isOver = false) :
        hear service { session, limiter } [byte]
          = { session := { session with partialLine := [], ending := some .closed }, limiter } := by
      rw [hear, foldl_hearByte_of_isOver _ _ (Session.isOver_await limit _)]
      simp [Session.await, isOpen, limit]
    rw [closes session isOpen, closes { session with reachable := receiving } isOpen]
    exact ⟨rfl, rfl, reachable, .inl ⟨rfl, rfl⟩⟩
  · have heard (session : Session) : hear service { session, limiter } [byte]
        = hearByte service { session, limiter } byte := by
      rw [hear, Session.await_of_lineLimit_ne_zero limit]
      rfl
    rw [heard, heard]
    by_cases feed : byte = lineFeed
    · subst feed
      rw [hearByte_lineFeed isOpen, hearByte_lineFeed isOpen]
      exact matches_takeLine reachable receiving _
    · by_cases room : session.partialLine.length + 1 < service.lineLimit
      · rw [hearByte_kept isOpen feed room, hearByte_kept isOpen feed room]
        exact ⟨rfl, rfl, reachable, .inl ⟨rfl, rfl⟩⟩
      · rw [hearByte_refused isOpen feed (Nat.not_lt.mp room),
          hearByte_refused isOpen feed (Nat.not_lt.mp room)]
        exact matches_refuse reachable receiving _

end

/-- The same turn after earlier exchanges. -/
def following (earlier : List Exchange) (turn : Turn) : Turn :=
  { turn with exchanges := earlier ++ turn.exchanges }

theorem hearByte_following (service : Service) (earlier : List Exchange) (turn : Turn)
    (byte : UInt8) :
    (turn.following earlier).hearByte service byte
      = (turn.hearByte service byte).following earlier := by
  have refused (fault : Fault) :
      (turn.following earlier).refuse fault = (turn.refuse fault).following earlier := by
    unfold refuse following
    dsimp only
    rw [List.append_assoc]
  cases isOver : turn.session.isOver with
  | true =>
      have stillOver : (turn.following earlier).session.isOver = true := isOver
      rw [hearByte, hearByte, if_pos isOver, if_pos stillOver]
  | false =>
      have stillOpen : (turn.following earlier).session.isOver = false := isOver
      by_cases feed : byte = lineFeed
      · subst feed
        rw [hearByte_lineFeed isOver, hearByte_lineFeed stillOpen, takeLine, takeLine]
        dsimp only [following]
        split
        · simp [answerWith]
        · exact refused _
      · by_cases room : turn.session.partialLine.length + 1 < service.lineLimit
        · rw [hearByte_kept isOver feed room, hearByte_kept stillOpen feed room]
          rfl
        · rw [hearByte_refused isOver feed (Nat.not_lt.mp room),
            hearByte_refused stillOpen feed (Nat.not_lt.mp room)]
          exact refused _

/-- What a session hears does not depend on its earlier exchanges. -/
theorem hear_following (service : Service) (earlier : List Exchange) (turn : Turn)
    (bytes : List UInt8) :
    (turn.following earlier).hear service bytes = (turn.hear service bytes).following earlier := by
  unfold hear
  induction bytes using List.reverseRecOn with
  | nil => rfl
  | append_singleton front byte inductionHypothesis =>
      rw [List.foldl_append, List.foldl_append, inductionHypothesis]
      exact hearByte_following service earlier _ byte

end Turn

namespace Charge

/-- What a worker comes to that reads all its peer has sent in one turn. -/
def catchUp (service : Service) (limiter : Limiter) (charge : Charge) : Turn :=
  let heard := Turn.hear service
    { session := { charge.session with reachable := !charge.inbox.gone }, limiter }
    charge.inbox.bytes
  if charge.inbox.ended then { heard with session := heard.session.hearEnd } else heard

/-- The connection after a turn in which all that has come was read and replied to. -/
def caughtUp (charge : Charge) (unread : List UInt8) (turn : Turn) : Charge :=
  { charge with
    inbox := { charge.inbox with bytes := unread }
    session := { turn.session with reachable := true }
    unsent := [] }

/-- A worker that reads all that has come reads the next byte, and then the rest if it goes on. -/
theorem catchUp_cons (service : Service) (limiter : Limiter) {charge : Charge} {byte : UInt8}
    {rest : List UInt8} (unread : charge.inbox.bytes = byte :: rest) :
    let first := Turn.hear service
      { session := { charge.session with reachable := !charge.inbox.gone }, limiter } [byte]
    charge.catchUp service limiter
      = if first.session.isOver then first
        else ((charge.caughtUp rest first).catchUp service first.limiter).following
          first.exchanges := by
  intro first
  let start : Turn :=
    { session := { charge.session with reachable := !charge.inbox.gone }, limiter }
  have heard : start.hear service (byte :: rest) = first.hear service rest :=
    start.hear_append service [byte] rest
  have caught : charge.catchUp service limiter
      = if charge.inbox.ended then
          { first.hear service rest with session := (first.hear service rest).session.hearEnd }
        else first.hear service rest := by
    rw [← heard, catchUp, unread]
  rw [caught]
  cases isOver : first.session.isOver with
  | true =>
      have ended : first.session.hearEnd = first.session := if_pos isOver
      rw [Turn.hear_of_isOver isOver, ended, ite_self, if_pos rfl]
  | false =>
      have samePeer : first.session.reachable = !charge.inbox.gone := by
        obtain ⟨_, _, _, same⟩ := Turn.goesOn_hear service start [byte]
        exact same
      have whole : ({ first.session with reachable := !charge.inbox.gone } : Session)
          = first.session :=
        congrArg (fun reachable => ({ first.session with reachable } : Session)) samePeer.symm
      have again : Turn.following first.exchanges
          { session := first.session, limiter := first.limiter } = first := by
        simp [Turn.following]
      have heardAgain : first.hear service rest = (Turn.hear service
          { session := first.session, limiter := first.limiter } rest).following
            first.exchanges := by
        rw [← Turn.hear_following, again]
      rw [if_neg Bool.false_ne_true, heardAgain, catchUp, caughtUp]
      dsimp only
      rw [whole]
      split <;> rfl

theorem reachable_catchUp (service : Service) (limiter : Limiter) (charge : Charge) :
    (charge.catchUp service limiter).session.reachable = !charge.inbox.gone := by
  obtain ⟨_, _, _, samePeer⟩ := Turn.goesOn_hear service
    { session := { charge.session with reachable := !charge.inbox.gone }, limiter }
    charge.inbox.bytes
  unfold catchUp
  dsimp only
  split
  · exact (Session.reachable_hearEnd _).trans samePeer
  · exact samePeer

theorem isDone_caughtUp (charge : Charge) (unread : List UInt8) (turn : Turn) :
    (charge.caughtUp unread turn).isDone = turn.session.isOver := Bool.and_true _

end Charge

namespace Shift

open Pool (Plan)

/-- The events of a pool in a turn. -/
def shownIn (number : Nat) (turn : Turn) : List Pool.Event :=
  turn.exchanges.map (Pool.Event.exchanged number · turn.session.reachable)

/-- A worker can carry out a turn step by step, so that all of it is told and its connection is left
as it is after the turn. -/
def CanTurn (plan : Plan) (shift : Shift) (worker : Nat) (turn : Turn) (left : Charge) : Prop :=
  ∃ events, shift.Reaches plan ((shift.tell turn.limiter events).settle worker left)
    ∧ Tells events (shownIn left.number turn)

section

variable {plan : Plan} {shift : Shift} {worker : Nat} {charge : Charge} {byte : UInt8}
  {rest : List UInt8}

/-- A turn, and then another one of the same worker. -/
theorem CanTurn.trans {before first : Turn} {left last : Charge}
    (begun : shift.CanTurn plan worker before left) (goesOn : left.isDone = false)
    (samePeer : first.session.reachable = before.session.reachable)
    (number : last.number = left.number)
    (ended : ∀ events, ((shift.tell before.limiter events).settle worker left).CanTurn plan worker
      first last) :
    shift.CanTurn plan worker (first.following before.exchanges) last := by
  obtain ⟨events, reaches, tells⟩ := begun
  obtain ⟨more, later, tellsLater⟩ := ended events
  have reached := reaches.trans later
  rw [settle_settle goesOn] at reached
  refine ⟨events ++ more, reached, ?_⟩
  have shown : shownIn last.number (first.following before.exchanges)
      = shownIn left.number before ++ shownIn last.number first := by
    simp only [shownIn, Turn.following, samePeer, number, List.map_append]
  rw [shown]
  exact tells.append tellsLater

/-- A worker reads the next byte and sends the reply, if there is one. -/
theorem canTurn_byte (has : shift.duties[worker]? = some (.busy charge))
    (ready : charge.unsent = []) (isOpen : charge.session.isOver = false)
    (reachable : charge.session.reachable = true) (unread : charge.inbox.bytes = byte :: rest) :
    let turn := Turn.hear plan.service
      { session := { charge.session with reachable := !charge.inbox.gone }, limiter := shift.limiter }
      [byte]
    shift.CanTurn plan worker turn (charge.caughtUp rest turn) := by
  intro turn
  have present := (List.getElem?_eq_some_iff.mp has).1
  let alone := Turn.hear plan.service { session := charge.session, limiter := shift.limiter } [byte]
  have alike : Turn.Matches (!charge.inbox.gone) alone turn :=
    Turn.matches_hear reachable isOpen _ byte
  have turnEq : charge.turn plan.service shift.limiter = alone := by
    rw [Charge.turn, unread]
    simp [alone]
  have readEq := read_of_ready plan has ready
  rw [turnEq] at readEq
  have reads : shift.Reaches plan (shift.read plan worker) := reaches_perform (.read worker) rfl
  have afterTurn : charge.afterTurn alone
      = { charge with
          inbox := { charge.inbox with bytes := rest }
          session := alone.session
          unsent := alone.exchanges.flatMap Exchange.reply } := by
    rw [Charge.afterTurn, unread]
    rfl
  have turnReachable : turn.session.reachable = !charge.inbox.gone := by
    rcases alike.session with ⟨_, same⟩ | ⟨_, _, _, _, same⟩ <;> rw [same]
  have shown : shownIn (charge.caughtUp rest turn).number turn
      = alone.exchanges.map (Pool.Event.exchanged charge.number · !charge.inbox.gone) := by
    rw [shownIn, alike.exchanges, turnReachable]
    rfl
  rw [CanTurn, shown, alike.limiter]
  rcases alike.session with ⟨none, same⟩ | ⟨exchange, one, noLine, stops, same⟩
  · refine ⟨[], ?_, ?_⟩
    · have left : charge.afterTurn alone = charge.caughtUp rest turn := by
        rw [afterTurn, none, Charge.caughtUp, same]
        simp [← alike.reachable]
      rw [left, none] at readEq
      exact readEq ▸ reads
    · rw [none]
      exact tells_nil
  · have reply : exchange.reply ≠ [] := by
      obtain ⟨new, newEq, serves, _⟩ := Turn.goesOn_hear plan.service
        { session := charge.session, limiter := shift.limiter } [byte]
      have told : alone.exchanges = new := newEq
      rw [← told, one] at serves
      exact exchange.reply_ne_nil plan.service serves
    obtain ⟨character, more, unsent⟩ := List.exists_cons_of_ne_nil reply
    have toSend : (charge.afterTurn alone).unsent = exchange.reply := by
      rw [afterTurn, one]
      exact List.append_nil _
    have goesOn : (charge.afterTurn alone).isDone = false := by
      rw [Charge.isDone, toSend, unsent]
      exact Bool.and_false _
    have hasStill : (shift.read plan worker).duties[worker]?
        = some (.busy (charge.afterTurn alone)) := readEq ▸ getElem?_settle present goesOn
    rw [one]
    refine ⟨_, ?_, tells_exchange _ _ _⟩
    cases gone : charge.inbox.gone with
    | true =>
        have left : (charge.afterTurn alone).giveUp .lost = charge.caughtUp rest turn := by
          rw [afterTurn, Charge.giveUp, Charge.caughtUp, same, gone]
          simp [noLine, alike.reachable]
        have loses : (shift.read plan worker).Reaches plan ((shift.read plan worker).lose worker) :=
          reaches_perform (.lose worker) rfl
        have lost := reads.trans loses
        rw [lose_of_gone hasStill gone, left, ← tell_nil (shift.read plan worker), readEq,
          settle_settle goesOn, one] at lost
        exact lost
    | false =>
        have left : (charge.afterTurn alone).withUnsent [] = charge.caughtUp rest turn := by
          have heeded : (if alone.session.stopping then alone.session.heed else alone.session)
              = alone.session := by
            split
            · next stopping => exact if_pos (by simp [stops stopping])
            · rfl
          have whole : ({ alone.session with reachable := true } : Session) = alone.session :=
            congrArg (fun reachable => ({ alone.session with reachable } : Session))
              alike.reachable.symm
          rw [afterTurn, Charge.caughtUp, same, gone]
          refine congrArg (fun session => (⟨_, _, session, []⟩ : Charge)) ?_
          exact heeded.trans whole.symm
        have sent := reads.trans (reaches_sends more hasStill (toSend.trans unsent) gone)
        rw [left, readEq, settle_settle goesOn, one, ← unsent] at sent
        exact sent

/-- A worker reads when nothing has come, or learns that nothing more will. -/
theorem canTurn_end (has : shift.duties[worker]? = some (.busy charge))
    (ready : charge.unsent = []) (reachable : charge.session.reachable = true)
    (read : charge.inbox.bytes = []) :
    let turn := charge.catchUp plan.service shift.limiter
    shift.CanTurn plan worker turn (charge.caughtUp [] turn) := by
  intro turn
  let alone := charge.turn plan.service shift.limiter
  have aloneEq : alone
      = { session := if charge.inbox.ended then (charge.session.await plan.service).hearEnd
            else charge.session.await plan.service
          limiter := shift.limiter } := by
    simp only [alone, Charge.turn, read, Turn.hear, List.take_nil, List.foldl_nil,
      List.isEmpty_nil, Bool.and_true]
    split <;> rfl
  have turnEq : turn
      = { alone with session := { alone.session with reachable := !charge.inbox.gone } } := by
    rw [aloneEq]
    simp only [turn, Charge.catchUp, read, Turn.hear, List.foldl_nil,
      Session.await_withReachable]
    split
    · rw [Session.hearEnd_withReachable]
    · rfl
  have stillReachable : alone.session.reachable = true := by
    rw [aloneEq, ← reachable]
    dsimp only
    split
    · exact (Session.reachable_hearEnd _).trans (Session.reachable_await _)
    · exact Session.reachable_await _
  have left : charge.afterTurn alone = charge.caughtUp [] turn := by
    have whole : ({ alone.session with reachable := true } : Session) = alone.session :=
      congrArg (fun reachable => ({ alone.session with reachable } : Session)) stillReachable.symm
    rw [turnEq, Charge.afterTurn, Charge.caughtUp, read]
    dsimp only
    rw [whole, aloneEq]
    rfl
  have none : alone.exchanges = [] := aloneEq ▸ rfl
  refine ⟨[], ?_, ?_⟩
  · have readEq : shift.read plan worker
        = (shift.tell alone.limiter (alone.exchanges.map (Event.taken charge.number))).settle
            worker (charge.afterTurn alone) := read_of_ready plan has ready
    have reads : shift.Reaches plan (shift.read plan worker) := reaches_perform (.read worker) rfl
    rw [readEq, left, none] at reads
    rw [turnEq] at reads ⊢
    exact reads
  · rw [shownIn, turnEq, aloneEq]
    exact tells_nil

/-- A worker that is let go on alone catches up with its peer. -/
theorem canTurn_catchUp (plan : Plan) (has : shift.duties[worker]? = some (.busy charge))
    (ready : charge.unsent = []) (isOpen : charge.session.isOver = false)
    (reachable : charge.session.reachable = true) :
    let turn := charge.catchUp plan.service shift.limiter
    shift.CanTurn plan worker turn (charge.caughtUp [] turn) := by
  induction unread : charge.inbox.bytes generalizing shift charge with
  | nil => exact canTurn_end has ready reachable unread
  | cons byte rest inductionHypothesis =>
      let first := Turn.hear plan.service
        { session := { charge.session with reachable := !charge.inbox.gone }
          limiter := shift.limiter } [byte]
      have begun : shift.CanTurn plan worker first (charge.caughtUp rest first) :=
        canTurn_byte has ready isOpen reachable unread
      have whole : charge.catchUp plan.service shift.limiter = if first.session.isOver then first
          else ((charge.caughtUp rest first).catchUp plan.service first.limiter).following
            first.exchanges := Charge.catchUp_cons plan.service shift.limiter unread
      have isDone (unread : List UInt8) := charge.isDone_caughtUp unread first
      cases isOver : first.session.isOver with
      | true =>
          rw [isOver, if_pos rfl] at whole
          rw [whole]
          obtain ⟨events, reaches, tells⟩ := begun
          rw [settle_eq_of_isDone ((isDone rest).trans isOver) ((isDone []).trans isOver) rfl rfl]
            at reaches
          exact ⟨events, reaches, tells⟩
      | false =>
          rw [isOver, if_neg Bool.false_ne_true] at whole
          rw [whole]
          have present := (List.getElem?_eq_some_iff.mp has).1
          have goesOn := (isDone rest).trans isOver
          have samePeer : first.session.reachable = !charge.inbox.gone := by
            obtain ⟨_, _, _, same⟩ := Turn.goesOn_hear plan.service
              { session := { charge.session with reachable := !charge.inbox.gone }
                limiter := shift.limiter } [byte]
            exact same
          refine begun.trans goesOn ((Charge.reachable_catchUp ..).trans samePeer.symm) rfl
            fun events => ?_
          have hasStill : ((shift.tell first.limiter events).settle worker
              (charge.caughtUp rest first)).duties[worker]?
                = some (.busy (charge.caughtUp rest first)) := getElem?_settle present goesOn
          exact inductionHypothesis hasStill rfl isOver rfl rfl

end

end Shift

end AdmissionControl
