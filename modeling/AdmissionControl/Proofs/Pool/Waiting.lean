import AdmissionControl.Proofs.Client.Channels
import AdmissionControl.Proofs.Daemon.Order
import AdmissionControl.Proofs.Session.Pieces
import AdmissionControl.Proofs.Wire.ReplyCodec
import AdmissionControl.Client.Basic

/-!
# Waiting in line

Connections that no worker has are in line. Workers take them up from the head of the line and look
at all that their peers did meanwhile, so a peer that has sent a whole line by then sees a line in
return or the end of its connection. Nothing is seen on a connection that stays in line, and the
workers that make it wait hold connections that came before it.
-/

namespace AdmissionControl

open Wire

section Replies

/-- Every reply to a line has a line feed. -/
theorem lineFeed_mem_answerLine (tuning : Limiter.Tuning) (limiter : Limiter) (line : List Char) :
    '\n' ∈ (answerLine tuning limiter line).reply := by
  unfold answerLine
  split
  · next request _ =>
    cases request with
    | admission visitor => exact List.mem_append_right _ List.mem_cons_self
    | complete latency status sampled =>
        change '\n' ∈ Reply.acknowledgement
        decide
    | stats => exact List.mem_append_right _ List.mem_cons_self
  · change '\n' ∈ Reply.unknown
    decide

theorem lineFeed_mem_encode {text : List Char} (member : '\n' ∈ text) :
    Turn.lineFeed ∈ Text.encode text := List.mem_flatMap.mpr ⟨'\n', member, by decide⟩

/-- Every exchange with a service sends a line feed. -/
theorem Serves.lineFeed_mem {tuning : Limiter.Tuning} {first last : Limiter}
    {exchanges : List Exchange} (serves : Serves tuning first exchanges last) :
    ∀ exchange ∈ exchanges, Turn.lineFeed ∈ Text.encode exchange.reply := by
  induction serves with
  | nil => exact fun _ member => nomatch member
  | answered line _ inductionHypothesis =>
      exact List.forall_mem_cons.mpr
        ⟨lineFeed_mem_encode (lineFeed_mem_answerLine _ _ line), inductionHypothesis⟩
  | refused fault _ inductionHypothesis =>
      have unknown : '\n' ∈ Reply.unknown := by decide
      exact List.forall_mem_cons.mpr ⟨lineFeed_mem_encode unknown, inductionHypothesis⟩

end Replies

namespace Turn

variable {service : Service} {turn : Turn} {bytes : List UInt8}

/-- A session that hears the end of a line has an exchange about it or is over. -/
theorem exists_exchange_of_lineFeed (whole : lineFeed ∈ bytes) :
    (turn.hear service bytes).session.isOver = true
      ∨ ∃ exchange more,
          (turn.hear service bytes).exchanges = turn.exchanges ++ exchange :: more := by
  obtain ⟨front, rest, rfl⟩ := List.append_of_mem whole
  rw [List.append_cons, hear_append, hear_append]
  by_cases limit : service.lineLimit = 0
  · have ended : ((turn.hear service front).hear service [lineFeed]).session.isOver = true := by
      have isOver := Session.isOver_await limit (turn.hear service front).session
      rwa [hear, foldl_hearByte_of_isOver service _ isOver]
    exact .inl (by rwa [hear_of_isOver ended])
  cases isOver : (turn.hear service front).session.isOver with
  | true => exact .inl (by rw [hear_of_isOver isOver, hear_of_isOver isOver, isOver])
  | false =>
      have taken : (turn.hear service front).hear service [lineFeed]
          = (turn.hear service front).takeLine service
              ((turn.hear service front).session.partialLine ++ [lineFeed]) := by
        rw [hear, Session.await_of_lineLimit_ne_zero limit]
        exact hearByte_lineFeed isOver
      obtain ⟨before, beforeEq, _⟩ := goesOn_hear service turn front
      obtain ⟨after, afterEq, _⟩ :=
        goesOn_hear service ((turn.hear service front).hear service [lineFeed]) rest
      have grown : ∃ exchange, ((turn.hear service front).hear service [lineFeed]).exchanges
          = (turn.hear service front).exchanges ++ [exchange] := by
        rw [taken, takeLine]
        split
        · exact ⟨_, rfl⟩
        · exact ⟨_, rfl⟩
      obtain ⟨exchange, exchangeEq⟩ := grown
      right
      rw [afterEq, exchangeEq, beforeEq]
      cases before with
      | nil => exact ⟨exchange, after, by simp⟩
      | cons first others => exact ⟨first, others ++ exchange :: after, by simp⟩

end Turn

/-- What a turn has for a peer that sent a whole line: an exchange, or the end of the session. -/
def Turn.Responds (turn : Turn) : Prop :=
  turn.session.isOver = true
    ∨ ∃ exchange ∈ turn.exchanges, Turn.lineFeed ∈ Text.encode exchange.reply

/-- Hearing a whole line is responding to it. -/
theorem Turn.responds_hear (service : Service) {session : Session} {limiter : Limiter}
    {bytes : List UInt8} (whole : Turn.lineFeed ∈ bytes) :
    (Turn.hear service { session, limiter } bytes).Responds := by
  rcases Turn.exists_exchange_of_lineFeed whole with isOver | ⟨exchange, more, exchanges⟩
  · exact .inl isOver
  · obtain ⟨new, newEq, serves, _⟩ := Turn.goesOn_hear service { session, limiter } bytes
    have member : exchange ∈ (Turn.hear service { session, limiter } bytes).exchanges := by
      rw [exchanges]
      exact List.mem_append_right _ List.mem_cons_self
    have told : exchange ∈ new := by simpa [newEq] using member
    exact .inr ⟨exchange, member, serves.lineFeed_mem exchange told⟩

/-- A session that goes on after an action of its peer has a peer that can receive. -/
theorem PeerAction.reachable_onTurn (action : PeerAction) (service : Service) (turn : Turn)
    (reachable : turn.session.reachable = true)
    (goesOn : (action.onTurn service turn).session.isOver = false) :
    (action.onTurn service turn).session.reachable = true := by
  cases action with
  | send bytes =>
      obtain ⟨_, _, _, samePeer⟩ := Turn.goesOn_hear service turn bytes
      exact samePeer.trans reachable
  | finish => exact absurd (Session.isOver_hearEnd turn.session) (Bool.eq_false_iff.mp goesOn)
  | leave =>
      have isOver : turn.session.hearEnd.isOver = true := Session.isOver_hearEnd turn.session
      exact absurd isOver (Bool.eq_false_iff.mp goesOn)

namespace Inbox

variable (service : Service) (limiter : Limiter) (inbox : Inbox)

/-- A worker that takes a connection up knows whether its peer is still there. -/
theorem reachable_takeUp : (inbox.takeUp service limiter).session.reachable = !inbox.gone := by
  obtain ⟨_, _, _, samePeer⟩ := Turn.goesOn_hear service
    { session := .opening (!inbox.gone) false, limiter } inbox.bytes
  unfold takeUp
  dsimp only
  split
  · exact (Session.reachable_hearEnd _).trans samePeer
  · exact samePeer

/-- The session goes on only if the peer can still send. -/
theorem isOver_takeUp (ended : inbox.ended = true) :
    (inbox.takeUp service limiter).session.isOver = true := by
  unfold takeUp
  dsimp only
  rw [if_pos ended]
  exact Session.isOver_hearEnd _

/-- A peer that has sent a whole line is responded to. -/
theorem responds_takeUp (whole : Turn.lineFeed ∈ inbox.bytes) :
    (inbox.takeUp service limiter).Responds := by
  by_cases ended : inbox.ended = true
  · exact .inl (inbox.isOver_takeUp service limiter ended)
  · have heard : inbox.takeUp service limiter
        = Turn.hear service { session := .opening (!inbox.gone) false, limiter } inbox.bytes := by
      unfold takeUp
      dsimp only
      rw [if_neg ended]
    rw [heard]
    exact Turn.responds_hear service whole

end Inbox

namespace Pool

/-- What a peer that waits for a line waits for: bytes with a line feed, or the end of its
connection. -/
def Event.EndsWait (number : Nat) : Event → Prop
  | .exchanged other exchange delivered =>
      other = number ∧ delivered = true ∧ Turn.lineFeed ∈ Text.encode exchange.reply
  | .closed other seen => other = number ∧ seen = true

/-- A call waits exactly until something ends its wait. -/
theorem isAnswered_sight_iff {κ : Type} (events : List Event) (number : Nat)
    (link : Client.Link κ) :
    Client.isAnswered link (.received (Text.encode (sight events number).received)
        (sight events number).closed) = true
      ↔ Turn.lineFeed ∈ link.unread ∨ ∃ event ∈ events, event.EndsWait number := by
  have cut (bytes : List UInt8) : (Text.cut? 10 bytes).isSome = true ↔ Turn.lineFeed ∈ bytes := by
    rw [← not_iff_not, ← Text.cut?_eq_none_iff, Bool.not_eq_true, Option.isSome_eq_false_iff,
      Option.isNone_iff_eq_none]
    rfl
  have closed : (sight events number).closed = true ↔ Event.closed number true ∈ events :=
    List.contains_iff_mem
  have received : Turn.lineFeed ∈ Text.encode (sight events number).received ↔
      ∃ exchange, Event.exchanged number exchange true ∈ events
        ∧ Turn.lineFeed ∈ Text.encode exchange.reply := by
    simp only [sight, Text.encode, List.flatMap_assoc, List.mem_flatMap]
    constructor
    · rintro ⟨event, member, seen⟩
      cases event with
      | closed => simp at seen
      | exchanged other exchange delivered =>
          obtain ⟨character, present, encoded⟩ := seen
          obtain ⟨⟨rfl, rfl⟩, shown⟩ :
              (other = number ∧ delivered = true) ∧ character ∈ exchange.reply :=
            List.mem_ite_nil_right.mp present
          exact ⟨exchange, member, character, shown, encoded⟩
    · rintro ⟨exchange, member, character, present, encoded⟩
      exact ⟨_, member, character, by simpa using present, encoded⟩
  rw [Client.isAnswered, Bool.or_eq_true, cut, List.mem_append, closed, received]
  constructor
  · rintro (isClosed | unread | ⟨exchange, member, hasFeed⟩)
    · exact .inr ⟨_, isClosed, rfl, rfl⟩
    · exact .inl unread
    · exact .inr ⟨_, member, rfl, rfl, hasFeed⟩
  · rintro (unread | ⟨event, member, ends⟩)
    · exact .inr (.inl unread)
    · cases event with
      | exchanged other exchange delivered =>
          obtain ⟨rfl, rfl, hasFeed⟩ := ends
          exact .inr (.inr ⟨exchange, member, hasFeed⟩)
      | closed other seen =>
          obtain ⟨rfl, rfl⟩ := ends
          exact .inl member

section Settling

variable (pool : Pool) (number : Nat) (turn : Turn)

/-- A worker goes on serving a connection unless its session is over. -/
theorem serving_settle :
    (pool.settle number turn).serving
      = if turn.session.isOver then pool.serving else pool.serving ++ [(number, turn.session)] := by
  unfold settle
  dsimp only
  split <;> rfl

/-- A turn makes events on its own connection, and a response ends the wait of a peer that is still
there. -/
theorem exists_events_settle :
    ∃ events, (pool.settle number turn).log = pool.log ++ events
      ∧ (∀ event ∈ events, event.number = number)
      ∧ (turn.session.reachable = true → turn.Responds →
          ∃ event ∈ events, event.EndsWait number) := by
  have exchanged : ∀ event ∈ turn.exchanges.map (Event.exchanged number · turn.session.reachable),
      event.number = number := by
    intro event member
    obtain ⟨_, _, rfl⟩ := List.mem_map.mp member
    rfl
  unfold settle
  dsimp only
  split
  · refine ⟨_, List.append_assoc _ _ _, ?_, fun reachable _ => ?_⟩
    · intro event member
      rcases List.mem_append.mp member with earlier | last
      · exact exchanged event earlier
      · rw [List.mem_singleton.mp last]
        rfl
    · exact ⟨_, List.mem_append_right _ (List.mem_singleton_self _), rfl, reachable⟩
  · next goesOn =>
    refine ⟨_, rfl, exchanged, fun reachable responds => ?_⟩
    obtain ⟨exchange, member, hasFeed⟩ := responds.resolve_left goesOn
    exact ⟨_, List.mem_map.mpr ⟨exchange, member, rfl⟩, rfl, reachable, hasFeed⟩

end Settling

theorem arrivals_settle (pool : Pool) (number : Nat) (turn : Turn) :
    (pool.settle number turn).arrivals = pool.arrivals := by
  unfold settle
  dsimp only
  split <;> rfl

theorem arrivals_takeUpFrom (plan : Plan) (pool : Pool) (waiting : List (Nat × Inbox)) :
    (pool.takeUpFrom plan waiting).arrivals = pool.arrivals := by
  induction waiting generalizing pool with
  | nil => rfl
  | cons entry rest inductionHypothesis =>
      unfold takeUpFrom
      split
      · exact (inductionHypothesis _).trans (arrivals_settle ..)
      · rfl

/-- Workers have taken up connections, and these events were made by it. -/
structure Takes (plan : Plan) (before : Pool) (taken : List (Nat × Inbox)) (events : List Event)
    (after : Pool) : Prop where
  log : after.log = before.log ++ events
  /-- Only on the connections that were taken up something happened. -/
  own : ∀ event ∈ events, event.number ∈ taken.map Prod.fst
  /-- A peer that is still there and has sent a whole line need not wait any longer. -/
  responded : ∀ entry ∈ taken, entry.2.gone = false → Turn.lineFeed ∈ entry.2.bytes →
    ∃ event ∈ events, event.EndsWait entry.1
  served : ∀ entry ∈ after.serving, entry ∈ before.serving
    ∨ entry.2.isOver = false ∧ ∃ inbox, (entry.1, inbox) ∈ taken ∧ inbox.ended = false
        ∧ entry.2.reachable = !inbox.gone
  crewed : before.serving.length ≤ plan.size → after.serving.length ≤ plan.size
  /-- While every worker is busy nothing is taken up. -/
  busy : plan.size ≤ before.serving.length → taken = [] ∧ after.serving = before.serving

section Taking

variable {plan : Plan} {before middle after : Pool} {taken later : List (Nat × Inbox)}
  {events laterEvents : List Event}

/-- Nothing is taken up. -/
theorem takes_nil (log : after.log = before.log) (serving : after.serving = before.serving) :
    Takes plan before [] [] after where
  log := by rw [log, List.append_nil]
  own _ member := nomatch member
  responded _ member := nomatch member
  served entry member := .inl (serving ▸ member)
  crewed few := serving ▸ few
  busy _ := ⟨rfl, serving⟩

theorem Takes.trans (first : Takes plan before taken events middle)
    (second : Takes plan middle later laterEvents after) :
    Takes plan before (taken ++ later) (events ++ laterEvents) after where
  log := by rw [second.log, first.log, List.append_assoc]
  own event member := by
    rw [List.map_append]
    exact (List.mem_append.mp member).elim (fun early => List.mem_append_left _ (first.own _ early))
      (fun late => List.mem_append_right _ (second.own _ late))
  responded entry member present whole := by
    rcases List.mem_append.mp member with early | late
    · obtain ⟨event, happened, ends⟩ := first.responded entry early present whole
      exact ⟨event, List.mem_append_left _ happened, ends⟩
    · obtain ⟨event, happened, ends⟩ := second.responded entry late present whole
      exact ⟨event, List.mem_append_right _ happened, ends⟩
  served entry member := by
    rcases second.served entry member with earlier | ⟨isOpen, inbox, late, rest⟩
    · rcases first.served entry earlier with old | ⟨isOpen, inbox, early, rest⟩
      · exact .inl old
      · exact .inr ⟨isOpen, inbox, List.mem_append_left _ early, rest⟩
    · exact .inr ⟨isOpen, inbox, List.mem_append_right _ late, rest⟩
  crewed := second.crewed ∘ first.crewed
  busy full := by
    obtain ⟨rfl, unchanged⟩ := first.busy full
    obtain ⟨rfl, stillUnchanged⟩ := second.busy (unchanged ▸ full)
    exact ⟨rfl, stillUnchanged.trans unchanged⟩

/-- A free worker takes a connection up. -/
theorem exists_takes_settle (free : before.serving.length < plan.size) (number : Nat)
    (inbox : Inbox) :
    ∃ events, Takes plan before [(number, inbox)] events
      (before.settle number (inbox.takeUp plan.service before.limiter)) := by
  have reachable := inbox.reachable_takeUp plan.service before.limiter
  obtain ⟨events, log, own, responded⟩ :=
    exists_events_settle before number (inbox.takeUp plan.service before.limiter)
  refine ⟨events, log, ?_, ?_, ?_, fun _ => ?_, fun full => absurd free (Nat.not_lt.mpr full)⟩
  · intro event member
    rw [own event member]
    exact List.mem_singleton_self _
  · intro entry member present whole
    obtain rfl := List.mem_singleton.mp member
    exact responded (by rw [reachable, present]; rfl)
      (inbox.responds_takeUp plan.service before.limiter whole)
  · intro entry member
    rw [serving_settle] at member
    split at member
    · exact .inl member
    · next goesOn =>
      rcases List.mem_append.mp member with earlier | last
      · exact .inl earlier
      · obtain rfl := List.mem_singleton.mp last
        refine .inr ⟨Bool.eq_false_iff.mpr goesOn, inbox, List.mem_singleton_self _, ?_, reachable⟩
        exact Bool.eq_false_iff.mpr fun ended =>
          goesOn (inbox.isOver_takeUp plan.service before.limiter ended)
  · rw [serving_settle]
    split
    · exact Nat.le_of_lt free
    · rw [List.length_append]
      exact free

/-- Handing waiting connections to free workers takes up the first of them. -/
theorem exists_takes_takeUpFrom (plan : Plan) (pool : Pool) (waiting : List (Nat × Inbox)) :
    ∃ taken events, waiting = taken ++ (pool.takeUpFrom plan waiting).queue
      ∧ Takes plan pool taken events (pool.takeUpFrom plan waiting) := by
  induction waiting generalizing pool with
  | nil => exact ⟨[], [], rfl, takes_nil rfl rfl⟩
  | cons entry rest inductionHypothesis =>
      obtain ⟨number, inbox⟩ := entry
      unfold takeUpFrom
      split
      · next free =>
        obtain ⟨first, takesFirst⟩ := exists_takes_settle free number inbox
        obtain ⟨taken, events, restEq, takes⟩ := inductionHypothesis _
        exact ⟨(number, inbox) :: taken, first ++ events, congrArg (_ :: ·) restEq,
          takesFirst.trans takes⟩
      · exact ⟨[], [], rfl, takes_nil rfl rfl⟩

/-- A connection that is submitted while there is room comes to the end of the queue. -/
theorem exists_takes_submit {pool : Pool} (running : pool.phase = .running)
    (room : pool.hasRoom plan = true) (inbox : Inbox) :
    (pool.submit plan inbox).pool.arrivals = pool.arrivals + 1
      ∧ ∃ taken events,
          pool.queue ++ [(pool.arrivals, inbox)] = taken ++ (pool.submit plan inbox).pool.queue
            ∧ Takes plan pool taken events (pool.submit plan inbox).pool := by
  let queued := { pool with
    arrivals := pool.arrivals + 1, queue := pool.queue ++ [(pool.arrivals, inbox)] }
  have submitted : (pool.submit plan inbox).pool = queued.takeUpFrom plan queued.queue := by
    simp [submit, running, room, proceed, queued]
  rw [submitted]
  obtain ⟨taken, events, queueEq, takes⟩ := exists_takes_takeUpFrom plan queued queued.queue
  have unchanged : Takes plan pool [] [] queued := takes_nil rfl rfl
  exact ⟨arrivals_takeUpFrom .., taken, events, queueEq, unchanged.trans takes⟩

/-- After a turn on one connection the first waiting ones may be taken up. -/
theorem exists_takes_act {pool : Pool} (running : pool.phase = .running) {number : Nat}
    {session : Session} (found : pool.serving.lookup number = some session)
    (action : PeerAction) :
    let turn := action.onTurn plan.service { session, limiter := pool.limiter }
    (pool.act plan number action).arrivals = pool.arrivals
      ∧ ∃ taken events, pool.queue = taken ++ (pool.act plan number action).queue
          ∧ Takes plan ((pool.without number).settle number turn) taken events
              (pool.act plan number action) := by
  intro turn
  rw [act_of_found running found]
  exact ⟨(arrivals_takeUpFrom ..).trans (arrivals_settle ..), exists_takes_takeUpFrom plan _ _⟩

end Taking

/-- What a peer does on its connection in line. -/
def onLine (number : Nat) (action : PeerAction) (line : List (Nat × Inbox)) : List (Nat × Inbox) :=
  line.map fun entry => if entry.1 = number then (number, action.onInbox entry.2) else entry

/-- The line keeps the order in which connections came, behind those that workers hold. Sessions
that go on have a peer that can receive. -/
structure InLine (plan : Plan) (next : Nat) (serving : List (Nat × Session))
    (line : List (Nat × Inbox)) : Prop where
  crewed : serving.length ≤ plan.size
  sorted : (line.map Prod.fst).Pairwise (· < ·)
  earlier : ∀ served ∈ serving, ∀ waiting ∈ line, served.1 < waiting.1
  given : ∀ number ∈ serving.map Prod.fst ++ line.map Prod.fst, number < next
  alive : ∀ served ∈ serving, served.2.isOver = false ∧ served.2.reachable = true
  /-- A peer that cannot receive does not send either. -/
  leaving : ∀ waiting ∈ line, waiting.2.gone = true → waiting.2.ended = true

section Lines

variable {plan : Plan} {next number : Nat} {pool after : Pool} {line taken left : List (Nat × Inbox)}
  {events : List Event}

theorem map_fst_onLine (number : Nat) (action : PeerAction) (line : List (Nat × Inbox)) :
    (onLine number action line).map Prod.fst = line.map Prod.fst :=
  map_fst_onInbox number action line

theorem onLine_of_not_mem (elsewhere : number ∉ line.map Prod.fst) (action : PeerAction) :
    onLine number action line = line := by
  refine (List.map_congr_left fun entry member => ?_).trans (List.map_id _)
  exact if_neg fun same => elsewhere (List.mem_map.mpr ⟨entry, member, same⟩)

/-- A connection of someone else stays as it is. -/
theorem mem_onLine_of_ne {other : Nat} (different : other ≠ number) (action : PeerAction)
    {inbox : Inbox} (member : (number, inbox) ∈ line) :
    (number, inbox) ∈ onLine other action line :=
  List.mem_map.mpr ⟨_, member, if_neg (Ne.symm different)⟩

/-- Nobody has come. -/
theorem inLine_nil (plan : Plan) (next : Nat) : InLine plan next [] [] where
  crewed := Nat.zero_le _
  sorted := .nil
  earlier _ member := nomatch member
  given _ member := nomatch member
  alive _ member := nomatch member
  leaving _ member := nomatch member

theorem InLine.distinct (inLine : InLine plan next pool.serving line) : (line.map Prod.fst).Nodup :=
  inLine.sorted.imp Nat.ne_of_lt

/-- Workers take up the head of the line. -/
theorem InLine.takes (inLine : InLine plan next pool.serving (taken ++ left))
    (takes : Takes plan pool taken events after) : InLine plan next after.serving left := by
  have apart : ∀ number ∈ taken.map Prod.fst, ∀ other ∈ left.map Prod.fst, number < other := by
    have sorted := inLine.sorted
    rw [List.map_append] at sorted
    exact (List.pairwise_append.mp sorted).2.2
  refine ⟨takes.crewed inLine.crewed, ?_, ?_, ?_, ?_, ?_⟩
  · have sorted := inLine.sorted
    rw [List.map_append] at sorted
    exact (List.pairwise_append.mp sorted).2.1
  · intro served isServed waiting isWaiting
    rcases takes.served served isServed with old | ⟨_, inbox, isTaken, _⟩
    · exact inLine.earlier served old waiting (List.mem_append_right _ isWaiting)
    · exact apart _ (List.mem_map.mpr ⟨_, isTaken, rfl⟩) _ (List.mem_map.mpr ⟨_, isWaiting, rfl⟩)
  · intro number member
    refine inLine.given number ?_
    rw [List.map_append]
    rcases List.mem_append.mp member with isServed | isWaiting
    · obtain ⟨served, present, rfl⟩ := List.mem_map.mp isServed
      rcases takes.served served present with old | ⟨_, inbox, isTaken, _⟩
      · exact List.mem_append_left _ (List.mem_map.mpr ⟨served, old, rfl⟩)
      · exact List.mem_append_right _ (List.mem_append_left _ (List.mem_map.mpr ⟨_, isTaken, rfl⟩))
    · exact List.mem_append_right _ (List.mem_append_right _ isWaiting)
  · intro served isServed
    rcases takes.served served isServed with old | ⟨isOpen, inbox, isTaken, sending, reachable⟩
    · exact inLine.alive served old
    · refine ⟨isOpen, ?_⟩
      -- A peer that still sends has not left.
      have present : inbox.gone = false := by
        refine Bool.eq_false_iff.mpr fun gone => ?_
        have ended := inLine.leaving _ (List.mem_append_left _ isTaken) gone
        rw [sending] at ended
        cases ended
      rw [reachable, present]
      rfl
  · exact fun waiting member => inLine.leaving waiting (List.mem_append_right _ member)

/-- A connection comes to the end of the line. -/
theorem InLine.arrive (inLine : InLine plan next pool.serving line) :
    InLine plan (next + 1) pool.serving (line ++ [(next, ({} : Inbox))]) := by
  have before : ∀ number ∈ pool.serving.map Prod.fst ++ line.map Prod.fst, number < next :=
    inLine.given
  refine ⟨inLine.crewed, ?_, ?_, ?_, inLine.alive, ?_⟩
  · rw [List.map_append]
    refine List.pairwise_append.mpr ⟨inLine.sorted, List.pairwise_singleton _ _, ?_⟩
    intro number member last isLast
    rw [List.mem_singleton.mp isLast]
    exact before number (List.mem_append_right _ member)
  · intro served isServed waiting isWaiting
    rcases List.mem_append.mp isWaiting with earlier | last
    · exact inLine.earlier served isServed waiting earlier
    · rw [List.mem_singleton.mp last]
      exact before _ (List.mem_append_left _ (List.mem_map.mpr ⟨served, isServed, rfl⟩))
  · intro number member
    rw [List.map_append, ← List.append_assoc] at member
    rcases List.mem_append.mp member with earlier | last
    · exact Nat.lt_succ_of_lt (before number earlier)
    · rw [List.mem_singleton.mp last]
      exact Nat.lt_succ_self next
  · intro waiting member gone
    rcases List.mem_append.mp member with earlier | last
    · exact inLine.leaving waiting earlier gone
    · rw [List.mem_singleton.mp last] at gone
      cases gone

/-- A peer acts on its connection in line. -/
theorem InLine.onLine (inLine : InLine plan next pool.serving line) (number : Nat)
    (action : PeerAction) :
    InLine plan next pool.serving (Pool.onLine number action line) := by
  have numbers := map_fst_onLine number action line
  refine ⟨inLine.crewed, numbers ▸ inLine.sorted, ?_, numbers ▸ inLine.given, inLine.alive, ?_⟩
  · intro served isServed waiting isWaiting
    have member : waiting.1 ∈ line.map Prod.fst :=
      numbers ▸ List.mem_map.mpr ⟨waiting, isWaiting, rfl⟩
    obtain ⟨old, present, same⟩ := List.mem_map.mp member
    exact same ▸ inLine.earlier served isServed old present
  · intro waiting member
    obtain ⟨old, present, rfl⟩ := List.mem_map.mp member
    have leaving := inLine.leaving old present
    split
    · cases action with
      | send bytes =>
          unfold PeerAction.onInbox
          dsimp only
          split <;> exact leaving
      | finish => exact fun _ => rfl
      | leave => exact fun _ => rfl
    · exact leaving

/-- The line stays behind the connections that workers go on with. -/
theorem InLine.goOn (inLine : InLine plan next pool.serving line)
    (crewed : after.serving.length ≤ plan.size)
    (old : ∀ entry ∈ after.serving, ∃ served ∈ pool.serving, served.1 = entry.1)
    (alive : ∀ entry ∈ after.serving, entry.2.isOver = false ∧ entry.2.reachable = true) :
    InLine plan next after.serving line := by
  refine ⟨crewed, inLine.sorted, ?_, ?_, alive, inLine.leaving⟩
  · intro entry member waiting isWaiting
    obtain ⟨served, present, same⟩ := old entry member
    exact same ▸ inLine.earlier served present waiting isWaiting
  · intro number member
    refine inLine.given number ?_
    rcases List.mem_append.mp member with isServed | isWaiting
    · obtain ⟨entry, entryMember, rfl⟩ := List.mem_map.mp isServed
      obtain ⟨served, present, same⟩ := old entry entryMember
      exact List.mem_append_left _ (List.mem_map.mpr ⟨served, present, same⟩)
    · exact List.mem_append_right _ isWaiting

/-- A worker turns to its peer, and goes on with it or not. -/
theorem InLine.turn {session : Session} (inLine : InLine plan next pool.serving line)
    (served : (number, session) ∈ pool.serving) (action : PeerAction) :
    InLine plan next ((pool.without number).settle number
      (action.onTurn plan.service { session, limiter := pool.limiter })).serving line := by
  have reachable := action.reachable_onTurn plan.service
    { session, limiter := pool.limiter } (inLine.alive _ served).2
  generalize action.onTurn plan.service { session, limiter := pool.limiter } = turn at *
  have few : (pool.without number).serving.length < pool.serving.length :=
    List.length_filter_lt_length_iff_exists.mpr ⟨_, served, by simp⟩
  have cases : ∀ entry ∈ ((pool.without number).settle number turn).serving,
      entry ∈ pool.serving ∨ entry = (number, turn.session) ∧ turn.session.isOver = false := by
    intro entry member
    rw [serving_settle] at member
    split at member
    · exact .inl (List.mem_of_mem_filter member)
    · next goesOn =>
      rcases List.mem_append.mp member with other | own
      · exact .inl (List.mem_of_mem_filter other)
      · exact .inr ⟨List.mem_singleton.mp own, Bool.eq_false_iff.mpr goesOn⟩
  refine inLine.goOn ?_ ?_ ?_
  · rw [serving_settle]
    split
    · exact Nat.le_trans (Nat.le_of_lt few) inLine.crewed
    · rw [List.length_append]
      exact Nat.le_trans few inLine.crewed
  · intro entry member
    rcases cases entry member with present | ⟨rfl, _⟩
    · exact ⟨entry, present, rfl⟩
    · exact ⟨_, served, rfl⟩
  · intro entry member
    rcases cases entry member with present | ⟨rfl, goesOn⟩
    · exact inLine.alive entry present
    · exact ⟨goesOn, reachable goesOn⟩

end Lines

end Pool

end AdmissionControl
