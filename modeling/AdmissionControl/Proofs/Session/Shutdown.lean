import AdmissionControl.Proofs.Session.Reference

/-!
# Shutdown on a session

A session hears of a shutdown some time after it began. Until then it reads on, but looks before each
line whether it should, so it takes at most one more line. Where it hears of the shutdown between
lines it ends at once. Inside a line it reads on to the end of that line, within the limit that began
with its first byte, and makes of it what it would have made without the shutdown. It then ends, so no
second line is looked at.
-/

namespace AdmissionControl

open Wire

namespace Turn

variable {service : Service} {turn : Turn}

/-- What a session comes to whose last line is `body`, followed by a line feed if it is whole. -/
inductive LineEnd (service : Service) (turn : Turn) (body : List UInt8) (whole : Prop)
    (after : Turn) : Prop where
  /-- The line fits and is text: it is answered, and then the session shuts down. -/
  | answered (text : List Char) (fits : body.length < service.lineLimit) (isWhole : whole)
      (isText : requestLine? (body ++ [lineFeed]) = some text)
      (exchanges : after.exchanges = turn.exchanges
        ++ [.answered text (answerLine service.tuning turn.limiter text).reply])
      (limiter : after.limiter = (answerLine service.tuning turn.limiter text).state)
      (ending : after.session.ending = some .shutDown)
  /-- The line fits and is no text. -/
  | undecodable (fits : body.length < service.lineLimit) (isWhole : whole)
      (noText : requestLine? (body ++ [lineFeed]) = none)
      (exchanges : after.exchanges = turn.exchanges ++ [.refused .undecodableLine])
      (limiter : after.limiter = turn.limiter)
      (ending : after.session.ending = some (.refused .undecodableLine))
  /-- The line has come to the limit, counted from its first byte. -/
  | oversized (full : service.lineLimit ≤ body.length)
      (exchanges : after.exchanges
        = turn.exchanges ++ [.refused (.oversizedLine service.lineLimit)])
      (limiter : after.limiter = turn.limiter)
      (ending : after.session.ending = some (.refused (.oversizedLine service.lineLimit)))
  /-- The rest of the line is still to come. -/
  | waiting (room : body.length < service.lineLimit) (notWhole : ¬ whole)
      (exchanges : after.exchanges = turn.exchanges) (limiter : after.limiter = turn.limiter)
      (ending : after.session.ending = none)

/-- The bytes of a line: those before the first line feed, and that line feed if there is one. -/
def restOfLine (bytes : List UInt8) : List UInt8 :=
  bytes.takeWhile (· ≠ lineFeed) ++ if lineFeed ∈ bytes then [lineFeed] else []

/-- Has the line at hand for its last one, as a shutdown asks. -/
def withStopping (turn : Turn) : Turn :=
  { turn with session := { turn.session with stopping := true } }

theorem lineFeed_not_mem_takeWhile (bytes : List UInt8) :
    lineFeed ∉ bytes.takeWhile (· ≠ lineFeed) := fun member => by
  simpa using List.mem_takeWhile_imp member

/-- Bytes are the rest of a line and what follows it, which is nothing if the line is not whole. -/
theorem exists_restOfLine_append (bytes : List UInt8) :
    ∃ later, bytes = restOfLine bytes ++ later ∧ (lineFeed ∉ bytes → later = []) := by
  by_cases feed : lineFeed ∈ bytes
  · obtain ⟨front, later, eq, noFeed⟩ := List.eq_append_cons_of_mem feed
    have kept : ∀ byte ∈ front, decide (byte ≠ lineFeed) = true := fun byte member =>
      decide_eq_true fun same => noFeed (same ▸ member)
    have taken : bytes.takeWhile (· ≠ lineFeed) = front := by
      rw [eq, List.takeWhile_append_of_pos kept, List.takeWhile_cons_of_neg (by simp),
        List.append_nil]
    refine ⟨later, ?_, absurd feed⟩
    rw [restOfLine, taken, if_pos feed, ← List.append_cons]
    exact eq
  · have kept : ∀ byte ∈ bytes, decide (byte ≠ lineFeed) = true := fun byte member =>
      decide_eq_true fun same => feed (same ▸ member)
    refine ⟨[], ?_, fun _ => rfl⟩
    rw [restOfLine, List.takeWhile_eq_self_iff.mpr kept, if_neg feed, List.append_nil,
      List.append_nil]

/-- The rest of a line that comes to the limit has the line refused. -/
theorem hear_restOfLine_of_full (isOpen : turn.session.isOver = false)
    (begun : turn.session.partialLine.length < service.lineLimit) {bytes : List UInt8}
    (full : service.lineLimit
      ≤ (turn.session.partialLine ++ bytes.takeWhile (· ≠ lineFeed)).length) :
    turn.hear service (restOfLine bytes) = turn.refuse (.oversizedLine service.lineLimit) := by
  rw [List.length_append] at full
  rw [restOfLine, hear_append, hear_full isOpen (lineFeed_not_mem_takeWhile bytes) begun full]
  exact hear_of_isOver rfl _

/-- The rest of a line that fits has the line taken if it is whole, and otherwise is kept. -/
theorem hear_restOfLine_of_fits (isOpen : turn.session.isOver = false) {bytes : List UInt8}
    (fits : (turn.session.partialLine ++ bytes.takeWhile (· ≠ lineFeed)).length
      < service.lineLimit) :
    turn.hear service (restOfLine bytes)
      = if lineFeed ∈ bytes then
          turn.takeLine service
            (turn.session.partialLine ++ bytes.takeWhile (· ≠ lineFeed) ++ [lineFeed])
        else turn.withPartialLine (turn.session.partialLine ++ bytes.takeWhile (· ≠ lineFeed)) := by
  rw [List.length_append] at fits
  have noFeed := lineFeed_not_mem_takeWhile bytes
  unfold restOfLine
  split
  · exact hear_whole isOpen noFeed fits
  · rw [List.append_nil]
    exact hear_kept isOpen noFeed fits

/-- What is made of a whole line does not depend on a shutdown that waits for it, except that the
session is over then. -/
theorem takeLine_withStopping (service : Service) (reachable : turn.session.reachable = true)
    (line : List UInt8) :
    let alone := turn.takeLine service line
    let last := turn.withStopping.takeLine service line
    last.exchanges = alone.exchanges ∧ last.limiter = alone.limiter
      ∧ last.session.ending = some (alone.session.ending.getD .shutDown) := by
  unfold takeLine
  cases Text.decode? line with
  | some text =>
      cases stopping : turn.session.stopping <;>
        simp [answerWith, withStopping, reachable, stopping]
  | none => simp [refuse, withStopping, reachable]

/-- A session that is shutting down makes of the bytes that come what it would have made of the rest
of its line alone, except that a line that was answered is the last one. -/
theorem hear_withStopping (isOpen : turn.session.isOver = false)
    (reachable : turn.session.reachable = true)
    (begun : turn.session.partialLine.length < service.lineLimit) (bytes : List UInt8) :
    let alone := turn.hear service (restOfLine bytes)
    let after := turn.withStopping.hear service bytes
    after.exchanges = alone.exchanges ∧ after.limiter = alone.limiter
      ∧ after.session.ending
        = alone.session.ending.or (if lineFeed ∈ bytes then some .shutDown else none) := by
  intro alone after
  obtain ⟨later, split, noLater⟩ := exists_restOfLine_append bytes
  have stillOpen : turn.withStopping.session.isOver = false := isOpen
  have heard : after = (turn.withStopping.hear service (restOfLine bytes)).hear service later := by
    rw [← hear_append, ← split]
  by_cases fits : (turn.session.partialLine ++ bytes.takeWhile (· ≠ lineFeed)).length
      < service.lineLimit
  · have aloneEq : alone = _ := hear_restOfLine_of_fits isOpen fits
    have lastEq := hear_restOfLine_of_fits stillOpen fits
    by_cases feed : lineFeed ∈ bytes
    · rw [if_pos feed] at aloneEq lastEq
      obtain ⟨sameExchanges, sameLimiter, ending⟩ := takeLine_withStopping service
        reachable (turn.session.partialLine ++ bytes.takeWhile (· ≠ lineFeed) ++ [lineFeed])
      have isOver : (turn.withStopping.hear service (restOfLine bytes)).session.isOver = true := by
        rw [lastEq, Session.isOver]
        exact congrArg Option.isSome ending
      rw [hear_of_isOver isOver, lastEq] at heard
      rw [heard, aloneEq, if_pos feed]
      refine ⟨sameExchanges, sameLimiter, ending.trans ?_⟩
      cases (turn.takeLine service _).session.ending <;> rfl
    · have whole : restOfLine bytes = bytes := by
        rw [noLater feed, List.append_nil] at split
        exact split.symm
      rw [if_neg feed] at aloneEq lastEq
      have kept : after = _ := (congrArg (hear service turn.withStopping) whole.symm).trans lastEq
      rw [kept, aloneEq, if_neg feed, Option.or_none]
      exact ⟨rfl, rfl, rfl⟩
  · have full := Nat.not_lt.mp fits
    have aloneEq : alone = _ := hear_restOfLine_of_full isOpen begun full
    have lastEq := hear_restOfLine_of_full stillOpen begun full
    rw [lastEq, hear_of_isOver rfl] at heard
    rw [heard, aloneEq]
    simp [refuse, withStopping, reachable]

/-- What the line in progress comes to. -/
theorem lineEnd_hear_withStopping (isOpen : turn.session.isOver = false)
    (reachable : turn.session.reachable = true)
    (begun : turn.session.partialLine.length < service.lineLimit) (bytes : List UInt8) :
    LineEnd service turn (turn.session.partialLine ++ bytes.takeWhile (· ≠ lineFeed))
      (lineFeed ∈ bytes) (turn.withStopping.hear service bytes) := by
  obtain ⟨exchanges, limiter, ending⟩ := hear_withStopping isOpen reachable begun bytes
  by_cases fits : (turn.session.partialLine ++ bytes.takeWhile (· ≠ lineFeed)).length
      < service.lineLimit
  · rw [hear_restOfLine_of_fits isOpen fits] at exchanges limiter ending
    by_cases feed : lineFeed ∈ bytes
    · rw [if_pos feed, takeLine] at exchanges limiter ending
      cases decoded : Text.decode?
          (turn.session.partialLine ++ bytes.takeWhile (· ≠ lineFeed) ++ [lineFeed]) with
      | some text =>
          rw [decoded] at exchanges limiter ending
          refine .answered (Text.dropEndWhile isTerminator text) fits feed
            (congrArg (Option.map _) decoded) exchanges limiter (ending.trans ?_)
          cases stopping : turn.session.stopping <;>
            simp [answerWith, reachable, stopping, feed]
      | none =>
          rw [decoded] at exchanges limiter ending
          refine .undecodable fits feed (congrArg (Option.map _) decoded) exchanges limiter
            (ending.trans ?_)
          simp [refuse, reachable]
    · rw [if_neg feed] at exchanges limiter ending
      refine .waiting fits feed exchanges limiter (ending.trans ?_)
      have openEnding : turn.session.ending = none := by simpa [Session.isOver] using isOpen
      rw [if_neg feed, Option.or_none]
      exact openEnding
  · have full := Nat.not_lt.mp fits
    rw [hear_restOfLine_of_full isOpen begun full] at exchanges limiter ending
    refine .oversized full exchanges limiter (ending.trans ?_)
    simp [refuse, reachable]

/-- Nobody but the peer makes its replies arrive or not. -/
theorem reachable_foldl_hear (turn : Turn) (pieces : List (List UInt8)) :
    (pieces.foldl (hear service) turn).session.reachable = turn.session.reachable := by
  induction pieces generalizing turn with
  | nil => rfl
  | cons piece rest inductionHypothesis =>
      obtain ⟨_, _, _, samePeer⟩ := goesOn_hear service turn piece
      exact (inductionHypothesis (turn.hear service piece)).trans samePeer

/-- Nothing is heard after the end of a session, in no pieces. -/
theorem foldl_hear_of_isOver (isOver : turn.session.isOver = true) (pieces : List (List UInt8)) :
    pieces.foldl (hear service) turn = turn := by
  induction pieces with
  | nil => rfl
  | cons piece rest inductionHypothesis =>
      rw [List.foldl_cons, hear_of_isOver isOver, inductionHypothesis]

/-- An open session holds what follows the last whole line of its stream. -/
theorem partialLine_foldl_hear (limiter : Limiter) (pieces : List (List UInt8))
    (isOpen : (pieces.foldl (hear service)
      { session := .opening true false, limiter }).session.isOver = false) :
    (pieces.foldl (hear service) { session := .opening true false, limiter }).session.partialLine
      = (Division.of pieces.flatten).rest := by
  by_cases positive : service.lineLimit = 0
  · cases pieces with
    | nil => rfl
    | cons piece rest =>
        -- Where not a single byte fits into a line, the first piece ends the session.
        have isOver : (Turn.hear service { session := .opening true false, limiter }
            piece).session.isOver = true := by
          have awaited := Session.isOver_await positive (.opening true false)
          rw [hear, foldl_hearByte_of_isOver service piece awaited]
          exact awaited
        rw [List.foldl_cons, foldl_hear_of_isOver isOver, isOver] at isOpen
        cases isOpen
  · rw [foldl_hear positive, hear_eq_reference positive] at isOpen ⊢
    have ending := ending_reference service limiter pieces.flatten
    rw [Session.isOver, ending, Option.isSome_map] at isOpen
    have none := Option.not_isSome_iff_eq_none.mp (Bool.eq_false_iff.mp isOpen)
    simp only [reference, none]

end Turn

namespace Session

theorem signal_of_isOver {session : Session} (isOver : session.isOver = true) :
    session.signal = session := if_pos isOver

theorem signal_of_isOpen {session : Session} (isOpen : session.isOver = false) :
    session.signal = { session with stopping := true } := if_neg (by simp [isOpen])

theorem heed_of_isOver {session : Session} (isOver : session.isOver = true) :
    session.heed = session := if_pos (by simp [isOver])

theorem heed_of_begun {session : Session} (begun : session.partialLine ≠ []) :
    session.heed = session := if_pos (by simp [begun])

theorem heed_of_idle {session : Session} (isOpen : session.isOver = false)
    (idle : session.partialLine = []) :
    session.heed = { session with ending := some .shutDown } := if_neg (by simp [isOpen, idle])

end Session

namespace Turn

variable {service : Service} {turn : Turn}

/-- Hears of a shutdown. -/
def heed (turn : Turn) : Turn := { turn with session := turn.session.heed }

/-- A session that has begun a line when it hears of a shutdown goes on. -/
theorem heed_hear_of_begun (isOpen : turn.session.isOver = false)
    (reachable : turn.session.reachable = true)
    (room : turn.session.partialLine.length < service.lineLimit) {bytes : List UInt8}
    (begun : turn.session.partialLine ++ bytes ≠ []) :
    (turn.withStopping.hear service bytes).heed = turn.withStopping.hear service bytes := by
  have stillOpen : turn.withStopping.session.isOver = false := isOpen
  obtain ⟨_, _, ending⟩ := hear_withStopping isOpen reachable room bytes
  have heeded : (turn.withStopping.hear service bytes).session.heed
      = (turn.withStopping.hear service bytes).session := by
    by_cases isOver : (turn.withStopping.hear service bytes).session.isOver = true
    · exact Session.heed_of_isOver isOver
    · refine Session.heed_of_begun ?_
      -- The session still waits for the rest of a line, which is all that has come.
      have noFeed : lineFeed ∉ bytes := fun feed => isOver <| by
        rw [Session.isOver, ending, if_pos feed]
        cases (turn.hear service (restOfLine bytes)).session.ending <;> rfl
      have short : turn.session.partialLine.length + bytes.length < service.lineLimit := by
        by_contra full
        exact isOver (hear_full stillOpen noFeed room (Nat.not_lt.mp full) ▸ rfl)
      rw [hear_kept stillOpen noFeed short]
      exact begun
  rw [heed, heeded]

/-- A session that hears of a shutdown before it has taken a byte of a line ends. -/
theorem heed_foldl_hear_of_unread (isOpen : turn.session.isOver = false)
    (idle : turn.session.partialLine = []) {pieces : List (List UInt8)}
    (unread : pieces.flatten = [] ∨ service.lineLimit = 0) :
    let after := (pieces.foldl (hear service) turn.withStopping).heed
    after.exchanges = turn.exchanges ∧ after.limiter = turn.limiter
      ∧ after.session.ending
        = some (if service.lineLimit = 0 ∧ pieces ≠ [] then .closed else .shutDown) := by
  intro after
  have stillOpen : turn.withStopping.session.isOver = false := isOpen
  by_cases closes : service.lineLimit = 0 ∧ pieces ≠ []
  · obtain ⟨limit, nonempty⟩ := closes
    obtain ⟨piece, rest, rfl⟩ := List.exists_cons_of_ne_nil nonempty
    have awaited := Session.isOver_await limit turn.withStopping.session
    let closed : Turn :=
      { turn.withStopping with session := turn.withStopping.session.await service }
    have isOver : closed.session.isOver = true := awaited
    have heard : turn.withStopping.hear service piece = closed :=
      foldl_hearByte_of_isOver service piece awaited
    have afterEq : after = closed := by
      simp only [after, List.foldl_cons, heard, foldl_hear_of_isOver isOver]
      exact congrArg (fun session => { closed with session }) (Session.heed_of_isOver isOver)
    rw [afterEq, if_pos ⟨limit, nonempty⟩]
    refine ⟨rfl, rfl, ?_⟩
    simp [closed, Session.await, stillOpen, limit]
  · have same : pieces.foldl (hear service) turn.withStopping = turn.withStopping := by
      by_cases positive : service.lineLimit = 0
      · have empty : pieces = [] := by
          by_contra nonempty
          exact closes ⟨positive, nonempty⟩
        rw [empty, List.foldl_nil]
      · rw [foldl_hear positive, unread.resolve_right positive, hear,
          Session.await_of_lineLimit_ne_zero positive]
        rfl
    have idleStill : turn.withStopping.session.partialLine = [] := idle
    have afterEq : after = { turn.withStopping with
        session := { turn.withStopping.session with ending := some .shutDown } } := by
      simp only [after, same, heed, Session.heed_of_idle stillOpen idleStill]
    rw [afterEq, if_neg closes]
    exact ⟨rfl, rfl, rfl⟩

end Turn

namespace Intake

/-- The line of an open session has not come to the limit. -/
theorem IsAtWork.line_length_lt {service : Service} {intake : Intake}
    (atWork : intake.IsAtWork service) (isOpen : intake.turn.session.isOver = false)
    (positive : service.lineLimit ≠ 0) : intake.line.length < service.lineLimit := by
  rcases atWork with isOver | reading
  · cases isOpen.symm.trans isOver
  · have limit := reading.room
    have left : intake.room ≠ 0 := fun full => positive (reading.lineLimit_eq_zero full)
    omega

/-- Where no byte fits into a line an open session has begun none. -/
theorem IsAtWork.line_eq_nil {service : Service} {intake : Intake}
    (atWork : intake.IsAtWork service) (isOpen : intake.turn.session.isOver = false)
    (limit : service.lineLimit = 0) : intake.line = [] := by
  rcases atWork with isOver | reading
  · cases isOpen.symm.trans isOver
  · have sum := reading.room
    exact (reading.unused (by omega)).2

/-- What the end of the stream does to a session. -/
theorem hearEnd_spec {service : Service} {intake : Intake} (atWork : intake.IsAtWork service) :
    let ended := intake.hearEnd service
    ended.turn.exchanges = intake.turn.exchanges ∧ ended.turn.limiter = intake.turn.limiter
      ∧ ended.turn.session.ending = some (intake.turn.session.ending.getD .closed)
      ∧ (intake.turn.session.isOver = true → ended.turn = intake.turn) := by
  intro ended
  have eq : ended.turn = _ := hearEnd_turn atWork
  rw [eq]
  refine ⟨rfl, rfl, Session.ending_hearEnd _, fun isOver => ?_⟩
  rw [Session.hearEnd, if_pos isOver]

/-- A shutdown answers exactly the request in progress. The bytes `before` have come when it begins,
and `between` until the session hears of it. A session that is over stays as it is. One that has not
begun a line until it hears of the shutdown ends then, and no later byte is looked at. One that has
begun a line, be it before the shutdown or before it heard of it, reads the rest of that line, in
whatever pieces it comes, within the limit that counts from its first byte, and makes of it what it
would have made without the shutdown; if it answered the line, it then shuts down. So no second line
is looked at. The end of the stream closes a session that still waits for its line, which is dropped.
Where no byte fits into a line a session is closed once it looks for one. -/
theorem heed_answers_line_in_progress (service : Service) (limiter : Limiter)
    (before between later : List (List UInt8)) :
    let reached := before.foldl (hearPiece service)
      (begin service { session := .opening true false, limiter })
    let after := later.foldl (hearPiece service)
      (between.foldl (hearPiece service) reached.signal).heed
    let ended := after.hearEnd service
    let begun := reached.line ++ between.flatten
    let bytes := between.flatten ++ later.flatten
    let alone := reached.hearPiece service (Turn.restOfLine bytes)
    (reached.turn.session.isOver = true → after.turn = reached.turn ∧ ended.turn = reached.turn)
      ∧ (reached.turn.session.isOver = false →
          reached.line = (Division.of before.flatten).rest
          ∧ (begun = [] ∨ service.lineLimit = 0 →
              after.turn.exchanges = reached.turn.exchanges
              ∧ after.turn.limiter = reached.turn.limiter
              ∧ after.turn.session.ending
                = some (if service.lineLimit = 0 ∧ between ≠ [] then .closed else .shutDown)
              ∧ ended.turn = after.turn)
          ∧ (begun ≠ [] → service.lineLimit ≠ 0 →
              Turn.LineEnd service reached.turn
                (reached.line ++ bytes.takeWhile (· ≠ Turn.lineFeed))
                (Turn.lineFeed ∈ bytes) after.turn
              ∧ after.turn.exchanges = alone.turn.exchanges
              ∧ after.turn.limiter = alone.turn.limiter
              ∧ after.turn.session.ending
                = alone.turn.session.ending.or
                    (if Turn.lineFeed ∈ bytes then some .shutDown else none)
              ∧ ended.turn.exchanges = after.turn.exchanges
              ∧ ended.turn.limiter = after.turn.limiter
              ∧ ended.turn.session.ending = some (after.turn.session.ending.getD .closed))) := by
  intro reached after ended begun bytes alone
  have started : (begin service { session := .opening true false, limiter }).IsAtWork service :=
    isAtWork_begin rfl
  obtain ⟨reachedEq, atWork⟩ := foldl_hearPiece_turn started before
  obtain ⟨noticedEq, noticedAtWork⟩ := foldl_hearPiece_turn atWork.signal between
  obtain ⟨afterEq, afterAtWork⟩ := foldl_hearPiece_turn noticedAtWork.heed later
  obtain ⟨sameExchanges, sameLimiter, ending, unchanged⟩ := hearEnd_spec afterAtWork
  have noticed_of {turn : Turn} (signaled : reached.signal.turn = turn) :
      (between.foldl (hearPiece service) reached.signal).heed.turn
        = (between.foldl (Turn.hear service) turn).heed := by
    subst signaled
    exact congrArg Turn.heed noticedEq
  -- A session that is over when it has heard of the shutdown stays so, whatever comes.
  have stays {turn : Turn} (isOver : turn.session.isOver = true)
      (heeded : (between.foldl (hearPiece service) reached.signal).heed.turn = turn) :
      after.turn = turn ∧ ended.turn = turn := by
    have same : after.turn = turn := by
      rw [heeded, Turn.foldl_hear_of_isOver isOver] at afterEq
      exact afterEq
    exact ⟨same, (unchanged (same ▸ isOver)).trans same⟩
  refine ⟨fun isOver => ?_, fun isOpen => ⟨?_, fun unread => ?_, fun begunLine positive => ?_⟩⟩
  · have signaled : reached.signal.turn = reached.turn := by
      simp only [signal, Session.signal_of_isOver isOver]
    refine stays isOver ((noticed_of signaled).trans ?_)
    rw [Turn.foldl_hear_of_isOver isOver, Turn.heed, Session.heed_of_isOver isOver]
  · rw [line, reachedEq]
    exact Turn.partialLine_foldl_hear limiter before (reachedEq ▸ isOpen)
  · have signaled : reached.signal.turn = reached.turn.withStopping := by
      simp only [signal, Session.signal_of_isOpen isOpen]
      rfl
    have idle : reached.turn.session.partialLine = [] := by
      rcases unread with empty | limit
      · exact (List.append_eq_nil_iff.mp empty).1
      · exact atWork.line_eq_nil isOpen limit
    have noByte : between.flatten = [] ∨ service.lineLimit = 0 :=
      unread.imp_left fun empty => (List.append_eq_nil_iff.mp empty).2
    obtain ⟨exchanges, limiterEq, endingEq⟩ := Turn.heed_foldl_hear_of_unread isOpen idle noByte
    have isOver : (between.foldl (Turn.hear service)
        reached.turn.withStopping).heed.session.isOver = true := by
      rw [Session.isOver, endingEq]
      rfl
    obtain ⟨same, sameEnded⟩ := stays isOver (noticed_of signaled)
    rw [sameEnded, same]
    exact ⟨exchanges, limiterEq, endingEq, rfl⟩
  · have signaled : reached.signal.turn = reached.turn.withStopping := by
      simp only [signal, Session.signal_of_isOpen isOpen]
      rfl
    have room : reached.turn.session.partialLine.length < service.lineLimit :=
      atWork.line_length_lt isOpen positive
    have reachable : reached.turn.session.reachable = true :=
      reachedEq ▸ Turn.reachable_foldl_hear _ before
    have heard : after.turn = reached.turn.withStopping.hear service bytes := by
      rw [afterEq, noticed_of signaled, Turn.foldl_hear positive, Turn.foldl_hear positive,
        Turn.heed_hear_of_begun isOpen reachable room begunLine, ← Turn.hear_append]
    have aloneEq : alone.turn = reached.turn.hear service (Turn.restOfLine bytes) :=
      (hearPiece_turn atWork _).1
    obtain ⟨exchanges, limiterEq, endingEq⟩ :=
      Turn.hear_withStopping isOpen reachable room bytes
    rw [← heard, ← aloneEq] at exchanges limiterEq endingEq
    have lineEnd := Turn.lineEnd_hear_withStopping isOpen reachable room bytes
    exact ⟨heard ▸ lineEnd, exchanges, limiterEq, endingEq, sameExchanges, sameLimiter, ending⟩

/-- A shutdown between two lines. The second line begins before the session hears of the shutdown, so
it is answered, and the next one, which was sent with its end, is not. -/
theorem heed_answers_line_in_progress_begun_late :
    let service : Service :=
      { tuning := { initialLimit := 4, targetMilliseconds := 300 }, lineLimit := 16 }
    let before : List (List UInt8) := [Text.encode "ADMIT\n".toList]
    let between : List (List UInt8) := [Text.encode "ADMIT kind=a".toList]
    let later : List (List UInt8) := [Text.encode "no".toList, Text.encode "n\nADMIT\n".toList]
    let reached := before.foldl (hearPiece service)
      (begin service { session := .opening true false, limiter := .fresh service.tuning })
    let after := later.foldl (hearPiece service)
      (between.foldl (hearPiece service) reached.signal).heed
    reached.turn.session.isOver = false
      ∧ reached.line ++ between.flatten ≠ []
      ∧ service.lineLimit ≠ 0
      ∧ after.turn.limiter = ⟨4, 2, false⟩
      ∧ after.turn.session.ending = some .shutDown := by
  intro service before between later reached after
  have isOpen : reached.turn.session.isOver = false := by decide +kernel
  have begun : reached.line ++ between.flatten ≠ [] := by decide +kernel
  have positive : service.lineLimit ≠ 0 := by decide
  obtain ⟨_, ofOpen⟩ :=
    heed_answers_line_in_progress service (.fresh service.tuning) before between later
  obtain ⟨_, _, ofBegun⟩ := ofOpen isOpen
  obtain ⟨_, _, limiter, ending, _⟩ := ofBegun begun positive
  refine ⟨isOpen, begun, positive, limiter.trans ?_, ending.trans ?_⟩
  · decide +kernel
  · decide +kernel

/-- A session need not shut down at once between two lines. One that has begun no line when the
shutdown begins applies a line that comes before it hears of it. One into whose lines no byte fits is
closed before a shutdown can reach it. -/
theorem signal_between_lines_goes_on :
    let service : Service :=
      { tuning := { initialLimit := 4, targetMilliseconds := 300 }, lineLimit := 16 }
    let start := begin service { session := .opening true false, limiter := .fresh service.tuning }
    let after := (start.signal.hearPiece service (Text.encode "ADMIT\n".toList)).heed
    let roomless : Service := { service with lineLimit := 0 }
    let reached := (begin roomless start.turn).hearPiece roomless []
    start.line = [] ∧ start.turn.limiter = ⟨4, 0, false⟩
      ∧ after.turn.limiter = ⟨4, 1, false⟩ ∧ after.turn.session.ending = some .shutDown
      ∧ reached.line = [] ∧ reached.signal.heed.turn.session.ending = some .closed := by
  decide +kernel

end Intake

end AdmissionControl
