import AdmissionControl.Proofs.Session.Framing
import AdmissionControl.Proofs.Shift.Faithful

/-!
# What becomes of a connection in a shutdown

A worker that has a connection when a shutdown begins need not hear of it at once. Until it does it
reads on, but it takes one line at most: then it looks before it turns to the next one. So of every
connection there is at most one line more, the one at hand or the first one to come, and it is taken
as ever.
-/

namespace AdmissionControl

open Wire

/-- Why a session ends with a line when the daemon is shutting down. -/
def Exchange.ending : Exchange → Session.Ending
  | .answered _ _ => .shutDown
  | .refused fault => .refused fault

namespace Turn

variable {service : Service}

/-- A byte is kept, or an exchange comes of it and the line is over. This depends on what there is of
the line, not on whether the daemon is shutting down. -/
theorem hearByte_cases (service : Service) (limiter : Limiter) (line : List UInt8) (byte : UInt8) :
    (∀ (session : Session) (limiter : Limiter), session.isOver = false →
        session.partialLine = line →
          hearByte service { session, limiter } byte
            = { session := { session with partialLine := line ++ [byte] }, limiter })
      ∨ ∃ exchange, ∀ session : Session, session.isOver = false → session.partialLine = line →
          let turn := hearByte service { session, limiter } byte
          turn.exchanges = [exchange] ∧ turn.session.partialLine = []
            ∧ turn.session.reachable = session.reachable
            ∧ (session.reachable = true → session.stopping = true →
                turn.session.ending = some exchange.ending) := by
  have refused (fault : Fault) (session : Session) :
      let turn := refuse { session, limiter } fault
      turn.exchanges = [.refused fault] ∧ turn.session.partialLine = []
        ∧ turn.session.reachable = session.reachable
        ∧ (session.reachable = true → session.stopping = true →
            turn.session.ending = some (Exchange.refused fault).ending) :=
    ⟨rfl, rfl, rfl, fun reachable _ => by simp [refuse, reachable, Exchange.ending]⟩
  by_cases feed : byte = lineFeed
  · subst feed
    right
    cases decoded : Text.decode? (line ++ [lineFeed]) with
    | none =>
        refine ⟨.refused .undecodableLine, fun session isOpen begun => ?_⟩
        rw [hearByte_lineFeed isOpen, takeLine]
        dsimp only
        rw [begun, decoded]
        exact refused .undecodableLine session
    | some text =>
        let taken := Text.dropEndWhile isTerminator text
        refine ⟨.answered taken (answerLine service.tuning limiter taken).reply,
          fun session isOpen begun => ?_⟩
        rw [hearByte_lineFeed isOpen, takeLine]
        dsimp only
        rw [begun, decoded]
        exact ⟨rfl, rfl, rfl, fun reachable stopping => by
          simp [answerWith, reachable, stopping, Exchange.ending]⟩
  · by_cases room : line.length + 1 < service.lineLimit
    · left
      intro session limiter isOpen begun
      rw [hearByte_kept isOpen feed (begun ▸ room), ← begun]
      rfl
    · right
      refine ⟨.refused (.oversizedLine service.lineLimit), fun session isOpen begun => ?_⟩
      rw [hearByte_refused isOpen feed (begun ▸ Nat.not_lt.mp room)]
      exact refused (.oversizedLine service.lineLimit) session

end Turn

namespace Charge

open Shift (Event)

variable {service : Service} {limiter last : Limiter} {charge now next : Charge}
  {events : List Event} {came : Inbox} {told : List Exchange} {sent : List Char}

/-- A worker replies to the line it has taken before it begins another one. -/
structure IsTidy (charge : Charge) : Prop where
  reachable : charge.session.reachable = true
  replies : charge.unsent ≠ [] → charge.session.partialLine = []

/-- What comes of a worker's turn with a connection that goes on. -/
theorem turn_cases (service : Service) (limiter : Limiter)
    (isOpen : charge.session.isOver = false) :
    let turn := charge.turn service limiter
    (turn = { session := charge.session, limiter } ∧ charge.inbox.bytes = [])
      ∨ turn = { session := { charge.session with partialLine := [], ending := some .closed }, limiter }
          ∧ (charge.inbox.ended = true ∧ charge.inbox.bytes = [] ∨ service.lineLimit = 0)
      ∨ ∃ byte rest, charge.inbox.bytes = byte :: rest ∧ service.lineLimit ≠ 0
          ∧ turn = Turn.hearByte service { session := charge.session, limiter } byte := by
  by_cases limit : service.lineLimit = 0
  · have closes : charge.session.await service
        = { charge.session with partialLine := [], ending := some .closed } := by
      simp [Session.await, isOpen, limit]
    have isOver : ({ charge.session with
        partialLine := [], ending := some .closed } : Session).isOver = true := rfl
    have heard (bytes : List UInt8) : Turn.hear service { session := charge.session, limiter } bytes
        = { session := { charge.session with partialLine := [], ending := some .closed }, limiter } := by
      rw [Turn.hear, closes]
      exact Turn.foldl_hearByte_of_isOver service bytes isOver
    refine .inr (.inl ⟨?_, .inr limit⟩)
    rw [turn, heard]
    dsimp only
    split
    · rw [Session.hearEnd, if_pos isOver]
    · rfl
  · have heard (bytes : List UInt8) : Turn.hear service { session := charge.session, limiter } bytes
        = bytes.foldl (Turn.hearByte service) { session := charge.session, limiter } := by
      rw [Turn.hear, Session.await_of_lineLimit_ne_zero limit]
    rw [turn, heard]
    cases unread : charge.inbox.bytes with
    | nil =>
        cases ended : charge.inbox.ended with
        | true =>
            refine .inr (.inl ⟨?_, .inl ⟨rfl, rfl⟩⟩)
            simp [Session.hearEnd, isOpen]
        | false => exact .inl ⟨by simp, rfl⟩
    | cons byte rest => exact .inr (.inr ⟨byte, rest, rfl, limit, by simp⟩)

/-- Whatever a step leaves of a reply belongs to a line that is over. -/
theorem Works.isTidy (works : charge.Works service limiter last events next)
    (tidy : charge.IsTidy) (isOpen : charge.unsent = [] → charge.session.isOver = false) :
    next.IsTidy := by
  obtain ⟨reachable, replies⟩ := tidy
  cases works with
  | reads ready =>
      rcases charge.turn_cases service limiter (isOpen ready) with
        ⟨same, _⟩ | ⟨same, _⟩ | ⟨byte, rest, _, _, same⟩
      · rw [same]
        exact ⟨reachable, fun unsent => absurd rfl unsent⟩
      · rw [same]
        exact ⟨reachable, fun _ => rfl⟩
      · rw [same]
        rcases Turn.hearByte_cases service limiter charge.session.partialLine byte with
          keeps | ⟨exchange, takes⟩
        · rw [keeps _ _ (isOpen ready) rfl]
          exact ⟨reachable, fun unsent => absurd rfl unsent⟩
        · obtain ⟨_, ended, samePeer, _⟩ := takes _ (isOpen ready) rfl
          exact ⟨samePeer.trans reachable, fun _ => ended⟩
  | @sends character rest unsent receiving =>
      have ended := replies (by simp [unsent])
      unfold withUnsent Session.heed
      refine ⟨?_, fun _ => ?_⟩ <;> dsimp only <;> split
      · split <;> exact reachable
      · exact reachable
      · split <;> exact ended
      · exact ended
  | loses gone => exact ⟨reachable, fun _ => rfl⟩
  | heeds ready =>
      refine ⟨?_, fun unsent => absurd ready unsent⟩
      unfold heed Session.heed
      dsimp only
      split <;> exact reachable
  | isAborted => exact ⟨reachable, fun _ => rfl⟩

/-- An exchange that a session comes to next, with what has come on its connection. -/
def Comes (service : Service) (charge : Charge) (came : List UInt8) (exchange : Exchange) : Prop :=
  ∃ limiter first rest, came = first ++ rest
    ∧ (Turn.hear service { session := charge.session, limiter } first).exchanges = [exchange]

/-- What can be told of a connection since the shutdown began: nothing, or the one exchange that
comes next. Its reply is sent after what was still to be sent, as far as that goes. -/
def Told (service : Service) (charge : Charge) (came : Inbox) (told : List Exchange)
    (sent : List Char) : Prop :=
  sent <+: charge.unsent ++ told.flatMap Exchange.reply
    ∧ (told = []
      ∨ charge.unsent = [] ∧ ∃ exchange, told = [exchange] ∧ charge.Comes service came.bytes exchange)

/-- What becomes of a connection that a worker had when the shutdown began, by what has come on it:
what is told of it, what is sent, and how it ends. -/
inductive Fate (service : Service) (charge : Charge) (came : Inbox) :
    List Exchange → List Char → Session.Ending → Prop where
  /-- The worker was sending a reply and does not look at anything after it. -/
  | replies (unsent : charge.unsent ≠ []) :
      Fate service charge came [] charge.unsent (charge.session.ending.getD .shutDown)
  /-- It was between lines and heard of the shutdown before it looked at a byte. -/
  | heeds (ready : charge.unsent = []) (between : charge.session.partialLine = []) :
      Fate service charge came [] [] .shutDown
  /-- It took the line at hand, or the one that came first, as it would have without a shutdown. -/
  | takes (ready : charge.unsent = []) {exchange : Exchange}
      (comes : charge.Comes service came.bytes exchange) :
      Fate service charge came [exchange] exchange.reply exchange.ending
  /-- The peer finished, or not a single byte fits into a line. No line had come. -/
  | ends (ready : charge.unsent = []) (why : came.ended = true ∨ service.lineLimit = 0)
      (noLine : ∀ limiter, (Turn.hear service { session := charge.session, limiter }
        came.bytes).exchanges = []) :
      Fate service charge came [] [] .closed
  /-- The peer had gone. -/
  | loses (gone : came.gone = true) {told : List Exchange} {sent : List Char}
      (tells : charge.Told service came told sent) : Fate service charge came told sent .lost
  /-- The time of the shutdown was over. -/
  | isAborted {told : List Exchange} {sent : List Char}
      (tells : charge.Told service came told sent) : Fate service charge came told sent .aborted

/-- How far a worker has come with a connection since the shutdown began. -/
inductive Stage (service : Service) (charge : Charge) (came : Inbox) (now : Charge) :
    List Exchange → List Char → Prop where
  /-- It still sends the reply that it was sending. -/
  | sends {sent : List Char} (same : now.session = charge.session.signal)
      (going : sent ++ now.unsent = charge.unsent) (goesOn : now.unsent ≠ []) :
      Stage service charge came now [] sent
  /-- It has read bytes of which no line has come. -/
  | reads (ready : charge.unsent = []) (nothing : now.unsent = []) (seen : List UInt8)
      (bytes : came.bytes = seen ++ now.inbox.bytes)
      (isOpen : charge.session.isOver = false)
      (session : now.session = { charge.session with
        partialLine := charge.session.partialLine ++ seen, stopping := true })
      (heard : ∀ limiter, seen.foldl (Turn.hearByte service) { session := charge.session, limiter }
        = { session := { charge.session with
              partialLine := charge.session.partialLine ++ seen }, limiter }) :
      Stage service charge came now [] []
  /-- It sends the reply to the line that it took. -/
  | answers (ready : charge.unsent = []) {exchange : Exchange} {sent : List Char}
      (comes : charge.Comes service came.bytes exchange)
      (ending : now.session.ending = some exchange.ending)
      (going : sent ++ now.unsent = exchange.reply) (goesOn : now.unsent ≠ []) :
      Stage service charge came now [exchange] sent

/-- A worker winds up a connection that it had when the shutdown began. -/
structure Winds (service : Service) (charge : Charge) (came : Inbox) (told : List Exchange)
    (sent : List Char) (now : Charge) : Prop where
  number : now.number = charge.number
  ended : now.inbox.ended = came.ended
  gone : now.inbox.gone = came.gone
  stage : Stage service charge came now told sent

/-- What has been told so far. -/
theorem Winds.tells (winds : charge.Winds service came told sent now) :
    charge.Told service came told sent := by
  cases winds.stage with
  | sends _ going => exact ⟨⟨now.unsent, by rw [going]; exact (List.append_nil _).symm⟩, .inl rfl⟩
  | reads => exact ⟨List.nil_prefix, .inl rfl⟩
  | answers ready comes _ going =>
      refine ⟨⟨now.unsent, ?_⟩, .inr ⟨ready, _, rfl, comes⟩⟩
      rw [going, ready]
      simp

/-- While a worker reads, nothing has been told. -/
theorem Winds.silent (winds : charge.Winds service came told sent now) (ready : now.unsent = []) :
    told = [] ∧ sent = [] := by
  cases winds.stage with
  | sends _ _ goesOn => exact absurd ready goesOn
  | reads => exact ⟨rfl, rfl⟩
  | answers _ _ _ _ goesOn => exact absurd ready goesOn

/-- Where a worker is after a step: it still winds up the connection, or is done with it. -/
def WindsOn (service : Service) (charge : Charge) (came : Inbox) (told : List Exchange)
    (sent : List Char) (next : Charge) : Prop :=
  (next.isDone = false → charge.Winds service came told sent next)
    ∧ (next.isDone = true →
        ∃ ending, next.session.ending = some ending ∧ charge.Fate service came told sent ending)

theorem windsOn_of_fate {ending : Session.Ending} (ended : next.session.ending = some ending)
    (nothing : next.unsent = []) (fate : charge.Fate service came told sent ending) :
    charge.WindsOn service came told sent next := by
  refine ⟨fun goesOn => ?_, fun _ => ⟨ending, ended, fate⟩⟩
  rw [isDone, nothing, Session.isOver, ended] at goesOn
  cases goesOn

theorem windsOn_of_winds (goesOn : next.isDone = false)
    (winds : charge.Winds service came told sent next) :
    charge.WindsOn service came told sent next :=
  ⟨fun _ => winds, fun isDone => absurd (goesOn.symm.trans isDone) Bool.false_ne_true⟩

/-- A worker that reads a byte goes on reading, has a line to reply to, or is done. -/
theorem Winds.reads (winds : charge.Winds service came told sent now) (ready : now.unsent = [])
    (tidy : charge.IsTidy) (limiter : Limiter) :
    let turn := now.turn service limiter
    charge.WindsOn service came (told ++ turn.exchanges) sent (now.afterTurn turn) := by
  intro turn
  obtain ⟨number, ended, gone, stage⟩ := winds
  cases stage with
  | sends _ _ goesOn => exact absurd ready goesOn
  | answers _ _ _ _ goesOn => exact absurd ready goesOn
  | reads nothingBefore _ seen bytes isOpen session heard =>
      have goesOn : now.session.isOver = false := by rw [session]; exact isOpen
      have line : now.session.partialLine = charge.session.partialLine ++ seen := by rw [session]
      rcases now.turn_cases service limiter goesOn with
        ⟨same, unread⟩ | ⟨same, why⟩ | ⟨byte, rest, unread, positive, same⟩
      · have turnEq : turn = { session := now.session, limiter } := same
        rw [turnEq, afterTurn]
        refine windsOn_of_winds ?_ ⟨number, ended, gone, ?_⟩
        · rw [isDone, goesOn]
          rfl
        · refine .reads nothingBefore rfl seen ?_ isOpen session heard
          rw [bytes, unread]
          rfl
      · have turnEq : turn
            = { session := { now.session with partialLine := [], ending := some .closed }, limiter } :=
          same
        rw [turnEq, afterTurn]
        refine windsOn_of_fate rfl rfl (.ends nothingBefore ?_ fun limiter => ?_)
        · exact why.imp_left fun atEnd => ended ▸ atEnd.1
        · by_cases limit : service.lineLimit = 0
          · have isOver := Session.isOver_await limit charge.session
            rw [Turn.hear, Turn.foldl_hearByte_of_isOver service _ isOver]
          · obtain ⟨_, unread⟩ := why.resolve_right limit
            rw [bytes, unread, List.append_nil, Turn.hear,
              Session.await_of_lineLimit_ne_zero limit, heard]
      · have turnEq : turn = Turn.hearByte service { session := now.session, limiter } byte := same
        have left : now.inbox.bytes.tail = rest := by rw [unread]; rfl
        rcases Turn.hearByte_cases service limiter (charge.session.partialLine ++ seen) byte with
          keeps | ⟨exchange, takes⟩
        · rw [turnEq, keeps _ _ goesOn line, afterTurn]
          refine windsOn_of_winds ?_ ⟨number, ended, gone, ?_⟩
          · exact (Bool.and_true _).trans goesOn
          · refine .reads nothingBefore rfl (seen ++ [byte]) ?_ isOpen ?_ fun limiter => ?_
            · rw [bytes, unread, List.append_assoc]
              rfl
            · rw [session, List.append_assoc]
            · rw [List.foldl_append, heard, ← List.append_assoc]
              exact keeps _ _ isOpen rfl
        · obtain ⟨exchanges, _, _, ending⟩ := takes now.session goesOn line
          obtain ⟨alone, _⟩ :=
            takes { charge.session with partialLine := charge.session.partialLine ++ seen } isOpen rfl
          rw [turnEq, afterTurn, exchanges]
          have takesLine : (Turn.hear service { session := charge.session, limiter }
              (seen ++ [byte])).exchanges = [exchange] := by
            rw [Turn.hear, Session.await_of_lineLimit_ne_zero positive, List.foldl_append, heard]
            exact alone
          have reply : exchange.reply ≠ [] := by
            obtain ⟨new, newEq, serves, _⟩ := Turn.goesOn_hear service
              { session := charge.session, limiter } (seen ++ [byte])
            obtain rfl : new = [exchange] := newEq.symm.trans takesLine
            exact exchange.reply_ne_nil service serves
          have toSend : [exchange].flatMap Exchange.reply = exchange.reply := List.append_nil _
          refine windsOn_of_winds ?_ ⟨number, ended, gone, ?_⟩
          · rw [isDone, toSend, List.isEmpty_eq_false_iff.mpr reply]
            exact Bool.and_false _
          · have reachable : now.session.reachable = true := by rw [session]; exact tidy.reachable
            have stopping : now.session.stopping = true := by rw [session]
            refine .answers nothingBefore ⟨limiter, seen ++ [byte], rest, ?_, takesLine⟩
              (ending reachable stopping) toSend (toSend.trans_ne reply)
            rw [bytes, unread, List.append_assoc]
            rfl

/-- A worker that sends a character goes on sending, or looks before the next line and is done. -/
theorem Winds.sends (winds : charge.Winds service came told sent now) {character : Char}
    {rest : List Char} (unsent : now.unsent = character :: rest) (tidy : charge.IsTidy) :
    charge.WindsOn service came told (sent ++ [character]) (now.withUnsent rest) := by
  obtain ⟨number, ended, gone, stage⟩ := winds
  have going {whole : List Char} (all : sent ++ now.unsent = whole) :
      (sent ++ [character]) ++ rest = whole := by
    rw [← all, unsent, List.append_assoc]
    rfl
  have stillSends (isRest : rest ≠ []) : (now.withUnsent rest).isDone = false
      ∧ (now.withUnsent rest).session = now.session := by
    have notEmpty : rest.isEmpty = false := List.isEmpty_eq_false_iff.mpr isRest
    simp [isDone, withUnsent, notEmpty]
  have isOverStill (session : Session) (isOver : session.isOver = true) :
      (if session.stopping then session.heed else session) = session := by
    have same : session.heed = session := if_pos (by simp [isOver])
    rw [same, ite_self]
  cases stage with
  | sends same all _ =>
      by_cases isRest : rest = []
      · subst isRest
        have wholly : sent ++ [character] = charge.unsent := by simpa using going all
        have before : charge.unsent ≠ [] := by simp [← wholly]
        have session : (now.withUnsent []).session
            = if now.session.stopping then now.session.heed else now.session := rfl
        have ending : (now.withUnsent []).session.ending
            = some (charge.session.ending.getD .shutDown) := by
          rw [session, same]
          cases ended : charge.session.ending with
          | some ending =>
              have isOver : charge.session.isOver = true := by simp [Session.isOver, ended]
              have signaled : charge.session.signal = charge.session := if_pos isOver
              rw [signaled, isOverStill _ isOver, ended]
              rfl
          | none =>
              have isOpen : charge.session.isOver = false := by simp [Session.isOver, ended]
              have signaled : charge.session.signal = { charge.session with stopping := true } :=
                if_neg (by simp [isOpen])
              rw [signaled]
              simp [Session.heed, Session.isOver, ended, tidy.replies before]
        exact windsOn_of_fate ending rfl (wholly ▸ .replies before)
      · obtain ⟨goesOn, session⟩ := stillSends isRest
        exact windsOn_of_winds goesOn
          ⟨number, ended, gone, .sends (session.trans same) (going all) isRest⟩
  | answers ready comes ending all _ =>
      by_cases isRest : rest = []
      · subst isRest
        have wholly : sent ++ [character] = _ := (List.append_nil _).symm.trans (going all)
        have isOver : now.session.isOver = true := by simp [Session.isOver, ending]
        have session : (now.withUnsent []).session = now.session := isOverStill _ isOver
        exact windsOn_of_fate ((congrArg _ session).trans ending) rfl (wholly ▸ .takes ready comes)
      · obtain ⟨goesOn, session⟩ := stillSends isRest
        exact windsOn_of_winds goesOn ⟨number, ended, gone,
          .answers ready comes ((congrArg _ session).trans ending) (going all) isRest⟩
  | reads _ nothing => exact absurd (unsent.symm.trans nothing) (List.cons_ne_nil _ _)

/-- A worker that hears of the shutdown is done between lines, and goes on with a line. -/
theorem Winds.heeds (winds : charge.Winds service came told sent now) (ready : now.unsent = []) :
    charge.WindsOn service came told sent now.heed := by
  obtain ⟨number, ended, gone, stage⟩ := winds
  cases stage with
  | sends _ _ goesOn => exact absurd ready goesOn
  | answers _ _ _ _ goesOn => exact absurd ready goesOn
  | reads nothingBefore _ seen bytes isOpen session heard =>
      have goesOn : now.session.isOver = false := by rw [session]; exact isOpen
      by_cases between : now.session.partialLine = []
      · have heeded : now.session.heed = { now.session with ending := some .shutDown } :=
          if_neg (by simp [goesOn, between])
        have ended : now.heed.session.ending = some .shutDown := by rw [heed, heeded]
        have line : charge.session.partialLine ++ seen = [] := by
          rw [session] at between
          exact between
        exact windsOn_of_fate ended ready
          (.heeds nothingBefore (List.append_eq_nil_iff.mp line).1)
      · have heeded : now.session.heed = now.session := if_pos (by simp [goesOn, between])
        have same : now.heed = now := by rw [heed, heeded]
        rw [same]
        exact windsOn_of_winds (by simp [isDone, goesOn]) ⟨number, ended, gone,
          .reads nothingBefore ready seen bytes isOpen session heard⟩

/-- Any step of a worker winds the connection up further. -/
theorem Works.winds (works : now.Works service limiter last events next) (tidy : charge.IsTidy)
    (winds : charge.Winds service came told sent now) :
    charge.WindsOn service came (told ++ Shift.exchangesOn events charge.number)
      (sent ++ Shift.received events charge.number) next := by
  rw [← winds.number]
  cases works with
  | reads ready =>
      rw [Shift.exchangesOn_map_taken, Shift.received_map_taken, List.append_nil]
      exact winds.reads ready tidy limiter
  | @sends character rest unsent receiving =>
      have received : Shift.received [.sent now.number character] now.number = [character] := by
        simp [Shift.received, Shift.Event.characterOn?]
      rw [received, show Shift.exchangesOn [.sent now.number character] now.number = [] from rfl,
        List.append_nil]
      exact winds.sends unsent tidy
  | loses gone =>
      simp only [Shift.exchangesOn, Shift.received, List.filterMap_nil, List.append_nil]
      exact windsOn_of_fate rfl rfl (.loses (winds.gone ▸ gone) winds.tells)
  | heeds ready =>
      simp only [Shift.exchangesOn, Shift.received, List.filterMap_nil, List.append_nil]
      exact winds.heeds ready
  | isAborted =>
      simp only [Shift.exchangesOn, Shift.received, List.filterMap_nil, List.append_nil]
      exact windsOn_of_fate rfl rfl (.isAborted winds.tells)

section Growing

variable (action : PeerAction)

/-- What has come stays, and nothing more comes after the end. -/
theorem grows_onInbox (came : Inbox) : ∃ more,
    (action.onInbox came).bytes = came.bytes ++ more ∧ (came.ended = true → more = [])
      ∧ (came.ended = true → (action.onInbox came).ended = true)
      ∧ (came.gone = true → (action.onInbox came).gone = true) := by
  cases action with
  | send bytes =>
      unfold PeerAction.onInbox
      dsimp only
      split
      · exact ⟨[], (List.append_nil _).symm, fun _ => rfl, id, id⟩
      · next sending => exact ⟨bytes, rfl, fun ended => absurd ended sending, id, id⟩
  | finish => exact ⟨[], (List.append_nil _).symm, fun _ => rfl, fun _ => rfl, id⟩
  | leave => exact ⟨[], (List.append_nil _).symm, fun _ => rfl, fun _ => rfl, fun _ => rfl⟩

theorem Comes.onInbox {exchange : Exchange} (comes : charge.Comes service came.bytes exchange) :
    charge.Comes service (action.onInbox came).bytes exchange := by
  obtain ⟨limiter, first, rest, bytes, exchanges⟩ := comes
  obtain ⟨more, grown, _⟩ := grows_onInbox action came
  exact ⟨limiter, first, rest ++ more, by rw [grown, bytes, List.append_assoc], exchanges⟩

theorem Told.onInbox (tells : charge.Told service came told sent) :
    charge.Told service (action.onInbox came) told sent := by
  obtain ⟨going, none | ⟨ready, exchange, one, comes⟩⟩ := tells
  · exact ⟨going, .inl none⟩
  · exact ⟨going, .inr ⟨ready, exchange, one, comes.onInbox action⟩⟩

/-- Whatever the peer does later, the fate of a connection is explained by what has come. -/
theorem Fate.onInbox {ending : Session.Ending} (fate : charge.Fate service came told sent ending) :
    charge.Fate service (action.onInbox came) told sent ending := by
  obtain ⟨more, grown, nothing, ended, gone⟩ := grows_onInbox action came
  cases fate with
  | replies unsent => exact .replies unsent
  | heeds ready between => exact .heeds ready between
  | takes ready comes => exact .takes ready (comes.onInbox action)
  | loses left tells => exact .loses (gone left) (tells.onInbox action)
  | isAborted tells => exact .isAborted (tells.onInbox action)
  | ends ready why noLine =>
      refine .ends ready (why.imp_left ended) fun limiter => ?_
      rcases why with atEnd | limit
      · rw [grown, nothing atEnd, List.append_nil]
        exact noLine limiter
      · have isOver := Session.isOver_await limit charge.session
        rw [Turn.hear, Turn.foldl_hearByte_of_isOver service _ isOver]

/-- The peer does something, at which the worker has not looked. -/
theorem Winds.onInbox (winds : charge.Winds service came told sent now) :
    charge.Winds service (action.onInbox came) told sent
      { now with inbox := action.onInbox now.inbox } := by
  obtain ⟨number, ended, gone, stage⟩ := winds
  have sameEnd : (action.onInbox now.inbox).ended = (action.onInbox came).ended
      ∧ (action.onInbox now.inbox).gone = (action.onInbox came).gone := by
    cases action with
    | send bytes =>
        unfold PeerAction.onInbox
        dsimp only
        rw [ended]
        split
        · exact ⟨ended, gone⟩
        · exact ⟨rfl, gone⟩
    | finish => exact ⟨rfl, gone⟩
    | leave => exact ⟨rfl, rfl⟩
  refine ⟨number, sameEnd.1, sameEnd.2, ?_⟩
  cases stage with
  | sends same going goesOn => exact .sends same going goesOn
  | answers ready comes ending going goesOn =>
      exact .answers ready (comes.onInbox action) ending going goesOn
  | reads ready nothing seen bytes isOpen session heard =>
      refine .reads ready nothing seen ?_ isOpen session heard
      cases action with
      | send more =>
          unfold PeerAction.onInbox
          dsimp only
          rw [ended]
          split
          · exact bytes
          · rw [bytes, List.append_assoc]
      | finish | leave => exact bytes

end Growing

/-- A shutdown begins while a worker has a connection. -/
theorem winds_signal (goesOn : charge.isDone = false) :
    charge.Winds service charge.inbox [] [] charge.signal where
  number := rfl
  ended := rfl
  gone := rfl
  stage := by
    by_cases ready : charge.unsent = []
    · have isOpen : charge.session.isOver = false := by simpa [isDone, ready] using goesOn
      have signaled : charge.session.signal = { charge.session with stopping := true } :=
        if_neg (by simp [isOpen])
      refine .reads ready ready [] rfl isOpen ?_ fun limiter => ?_
      · rw [List.append_nil]
        exact signaled
      · rw [List.append_nil]
        rfl
    · exact .sends rfl rfl ready

end Charge

end AdmissionControl
