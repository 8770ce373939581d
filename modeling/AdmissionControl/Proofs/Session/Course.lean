import AdmissionControl.Proofs.Session.Division
import AdmissionControl.Proofs.Session.Framing

/-!
# The course of a session

While a session is open it has answered every whole line that its peer has sent, in order, and holds
what follows the last of them. Once it is over, it has answered the first of them, and has refused
at most the line after those. Each byte keeps this, so all bytes do, however they are divided.
-/

namespace AdmissionControl

open Wire

/-- What the service is given of a whole line: its text without terminators, if it is text. -/
def requestLine? (line : List UInt8) : Option (List Char) :=
  (Text.decode? line).map (Text.dropEndWhile Turn.isTerminator)

/-- The line an exchange answers. -/
def Exchange.line? : Exchange → Option (List Char)
  | .answered line _ => some line
  | .refused _ => none

/-- Why the line that follows the first `count` whole lines is refused: it does not fit within the
limit, or it is whole but no text. -/
inductive Refusable (limit : Nat) (bytes : List UInt8) (count : Nat) : Fault → Prop where
  | oversized
      (full : limit ≤
        ((Division.after bytes count).takeWhile (· ≠ Turn.lineFeed)).length) :
      Refusable limit bytes count (.oversizedLine limit)
  | undecodable (line : List UInt8) (next : (Division.of bytes).lines[count]? = some line)
      (noText : Text.decode? line = none) :
      Refusable limit bytes count .undecodableLine

/-- Exchanges that answer the first whole lines among the bytes and refuse at most the next line,
with which they end. -/
inductive Took (limit : Nat) (bytes : List UInt8) : List Exchange → Prop where
  | answered {exchanges : List Exchange} (lines : List (List Char))
      (answers : exchanges.map Exchange.line? = lines.map some)
      (first : lines.map some <+: (Division.of bytes).lines.map requestLine?) :
      Took limit bytes exchanges
  | refused {exchanges : List Exchange} (lines : List (List Char))
      (answers : exchanges.map Exchange.line? = lines.map some)
      (first : lines.map some <+: (Division.of bytes).lines.map requestLine?) {fault : Fault}
      (reason : Refusable limit bytes lines.length fault) :
      Took limit bytes (exchanges ++ [.refused fault])

/-- Exchanges with a service whose limiter goes from the first state to the second. Refusals leave
it alone. -/
inductive Serves (tuning : Limiter.Tuning) : Limiter → List Exchange → Limiter → Prop where
  | nil (limiter : Limiter) : Serves tuning limiter [] limiter
  | answered {limiter last : Limiter} {rest : List Exchange} (line : List Char)
      (later : Serves tuning (answerLine tuning limiter line).state rest last) :
      Serves tuning limiter (.answered line (answerLine tuning limiter line).reply :: rest) last
  | refused {limiter last : Limiter} {rest : List Exchange} (fault : Fault)
      (later : Serves tuning limiter rest last) :
      Serves tuning limiter (.refused fault :: rest) last

theorem Serves.append {tuning : Limiter.Tuning} {first middle last : Limiter}
    {earlier later : List Exchange} (begun : Serves tuning first earlier middle)
    (ended : Serves tuning middle later last) : Serves tuning first (earlier ++ later) last := by
  induction begun with
  | nil => exact ended
  | answered line _ inductionHypothesis => exact .answered line (inductionHypothesis ended)
  | refused fault _ inductionHypothesis => exact .refused fault (inductionHypothesis ended)

section

variable {limit : Nat} {bytes : List UInt8} {count : Nat}

/-- What fills up a line goes on doing so when more comes. -/
private theorem length_takeWhile_le_append {p : UInt8 → Bool} (front more : List UInt8) :
    (front.takeWhile p).length ≤ ((front ++ more).takeWhile p).length := by
  rw [List.takeWhile_append]
  split
  · rw [List.length_append]
    omega
  · exact Nat.le_refl _

/-- A line that is to be refused stays so, whatever follows. -/
theorem Refusable.append {fault : Fault} (reason : Refusable limit bytes count fault)
    (counted : count ≤ (Division.of bytes).lines.length) (more : List UInt8) :
    Refusable limit (bytes ++ more) count fault := by
  cases reason with
  | oversized full =>
      refine .oversized (full.trans ?_)
      rw [Division.after_append bytes more counted]
      exact length_takeWhile_le_append _ more
  | undecodable line next noText =>
      obtain ⟨later, linesEq⟩ := Division.lines_isPrefix bytes more
      obtain ⟨present, _⟩ := List.getElem?_eq_some_iff.mp next
      refine .undecodable line ?_ noText
      rw [← linesEq, List.getElem?_append_left present, next]

/-- Exchanges over the first whole lines are so whatever follows. -/
theorem Took.append {exchanges : List Exchange} (took : Took limit bytes exchanges)
    (more : List UInt8) : Took limit (bytes ++ more) exchanges := by
  have extended := (Division.lines_isPrefix bytes more).map requestLine?
  cases took with
  | answered lines answers first => exact .answered lines answers (first.trans extended)
  | refused lines answers first reason =>
      refine .refused lines answers (first.trans extended) (reason.append ?_ more)
      simpa using first.length_le

end

namespace Session

/-- Where an open session is: it has answered all whole lines among the bytes sent to it, and holds
the rest, which leaves room for another byte. -/
structure UpToDate (limit : Nat) (bytes : List UInt8) (exchanges : List Exchange)
    (session : Session) : Prop where
  isOpen : session.isOver = false
  begun : session.partialLine = (Division.of bytes).rest
  room : (Division.of bytes).rest.length < limit
  answered : ∃ lines : List (List Char), exchanges.map Exchange.line? = lines.map some
    ∧ (Division.of bytes).lines.map requestLine? = lines.map some

theorem UpToDate.took {limit : Nat} {bytes : List UInt8} {exchanges : List Exchange}
    {session : Session} (current : session.UpToDate limit bytes exchanges) :
    Took limit bytes exchanges := by
  obtain ⟨lines, answers, whole⟩ := current.answered
  exact .answered lines answers (whole ▸ List.prefix_rfl)

/-- Where a session is, open or over. -/
def Stands (limit : Nat) (bytes : List UInt8) (exchanges : List Exchange) (session : Session) :
    Prop :=
  session.UpToDate limit bytes exchanges ∨ session.isOver ∧ Took limit bytes exchanges

theorem Stands.took {limit : Nat} {bytes : List UInt8} {exchanges : List Exchange}
    {session : Session} (stands : session.Stands limit bytes exchanges) :
    Took limit bytes exchanges := stands.elim UpToDate.took And.right

end Session

namespace Turn

/-- A turn goes on from another one: with further exchanges, which account for the limiter, and with
the same peer. -/
def GoesOn (service : Service) (before after : Turn) : Prop :=
  ∃ exchanges, after.exchanges = before.exchanges ++ exchanges
    ∧ Serves service.tuning before.limiter exchanges after.limiter
    ∧ after.session.reachable = before.session.reachable

variable {service : Service}

theorem GoesOn.refl (turn : Turn) : GoesOn service turn turn :=
  ⟨[], (List.append_nil _).symm, .nil _, rfl⟩

theorem GoesOn.trans {first middle last : Turn} (begun : GoesOn service first middle)
    (ended : GoesOn service middle last) : GoesOn service first last := by
  obtain ⟨earlier, earlierEq, served, samePeer⟩ := begun
  obtain ⟨later, laterEq, servedLater, samePeerLater⟩ := ended
  exact ⟨earlier ++ later, by rw [laterEq, earlierEq, List.append_assoc],
    served.append servedLater, samePeerLater.trans samePeer⟩

theorem goesOn_refuse (turn : Turn) (fault : Fault) : GoesOn service turn (turn.refuse fault) :=
  ⟨[.refused fault], rfl, .refused fault (.nil _), rfl⟩

theorem goesOn_takeLine (turn : Turn) (line : List UInt8) :
    GoesOn service turn (turn.takeLine service line) := by
  unfold takeLine
  split
  · exact ⟨_, rfl, .answered _ (.nil _), rfl⟩
  · exact goesOn_refuse turn _

theorem goesOn_hearByte (turn : Turn) (byte : UInt8) :
    GoesOn service turn (turn.hearByte service byte) := by
  unfold hearByte
  dsimp only
  split
  · exact .refl turn
  · split
    · exact goesOn_takeLine turn _
    · split
      · exact goesOn_refuse turn _
      · exact ⟨[], (List.append_nil _).symm, .nil _, rfl⟩

theorem goesOn_hear (service : Service) (turn : Turn) (bytes : List UInt8) :
    GoesOn service turn (turn.hear service bytes) := by
  have awaited : GoesOn service turn { turn with session := turn.session.await service } := by
    refine ⟨[], (List.append_nil _).symm, .nil _, ?_⟩
    unfold Session.await
    dsimp only
    split <;> rfl
  unfold hear
  induction bytes using List.reverseRecOn with
  | nil => exact awaited
  | append_singleton front byte inductionHypothesis =>
      rw [List.foldl_append]
      exact inductionHypothesis.trans (goesOn_hearByte _ byte)

section

variable {turn : Turn} {bytes : List UInt8} {earlier : List Exchange}

/-- A line feed ends a line. The line is answered or, as no text, refused. -/
theorem stands_hearByte_lineFeed
    (current : turn.session.UpToDate service.lineLimit bytes (earlier ++ turn.exchanges)) :
    (turn.hearByte service lineFeed).session.Stands service.lineLimit (bytes ++ [lineFeed])
      (earlier ++ (turn.hearByte service lineFeed).exchanges) := by
  obtain ⟨lines, answers, whole⟩ := current.answered
  have sent := Division.of_concat_lineFeed bytes
  have room : 0 < service.lineLimit := Nat.zero_lt_of_lt current.room
  rw [hearByte_lineFeed current.isOpen, current.begun, takeLine]
  cases decoded : Text.decode? ((Division.of bytes).rest ++ [lineFeed]) with
  | some text =>
      dsimp only
      have allAnswered : (earlier ++ (turn.answerWith service
            (Text.dropEndWhile isTerminator text)).exchanges).map Exchange.line?
          = (lines ++ [Text.dropEndWhile isTerminator text]).map some := by
        rw [answerWith, ← List.append_assoc, List.map_append, answers, List.map_append]
        rfl
      have allWhole : (Division.of (bytes ++ [lineFeed])).lines.map requestLine?
          = (lines ++ [Text.dropEndWhile isTerminator text]).map some := by
        rw [sent, List.map_append, whole, List.map_append, List.map_singleton, requestLine?,
          decoded]
        rfl
      cases isOver : (turn.answerWith service (Text.dropEndWhile isTerminator text)).session.isOver
      · refine .inl ⟨isOver, ?_, ?_, _, allAnswered, allWhole⟩
        · rw [sent]
          rfl
        · rw [sent]
          exact room
      · exact .inr ⟨isOver, .answered _ allAnswered (allWhole ▸ List.prefix_rfl)⟩
  | none =>
      refine .inr ⟨rfl, ?_⟩
      have counted : (Division.of bytes).lines.length = lines.length := by
        simpa using congrArg List.length whole
      have next : (Division.of (bytes ++ [lineFeed])).lines[lines.length]?
          = some ((Division.of bytes).rest ++ [lineFeed]) := by
        rw [sent, ← counted]
        exact List.getElem?_concat_length
      have first : lines.map some <+: (Division.of (bytes ++ [lineFeed])).lines.map requestLine? :=
        whole ▸ (Division.lines_isPrefix bytes [lineFeed]).map requestLine?
      have took : Took service.lineLimit (bytes ++ [lineFeed])
          ((earlier ++ turn.exchanges) ++ [.refused .undecodableLine]) :=
        .refused lines answers first (.undecodable _ next decoded)
      rwa [List.append_assoc] at took

/-- Any other byte is kept if it leaves room for another one, and otherwise the line is refused. -/
theorem stands_hearByte_of_ne {byte : UInt8} (notFeed : byte ≠ lineFeed)
    (current : turn.session.UpToDate service.lineLimit bytes (earlier ++ turn.exchanges)) :
    (turn.hearByte service byte).session.Stands service.lineLimit (bytes ++ [byte])
      (earlier ++ (turn.hearByte service byte).exchanges) := by
  obtain ⟨lines, answers, whole⟩ := current.answered
  have sent := Division.of_concat_of_ne bytes notFeed
  by_cases room : turn.session.partialLine.length + 1 < service.lineLimit
  · rw [hearByte_kept current.isOpen notFeed room]
    refine .inl ⟨isOver_withPartialLine current.isOpen _, ?_, ?_, lines, answers, ?_⟩
    · rw [partialLine_withPartialLine, current.begun, sent]
    · rw [sent, ← current.begun]
      simpa using room
    · rw [sent]
      exact whole
  · rw [hearByte_refused current.isOpen notFeed (Nat.not_lt.mp room)]
    refine .inr ⟨rfl, ?_⟩
    have counted : (Division.of bytes).lines.length = lines.length := by
      simpa using congrArg List.length whole
    have following : Division.after (bytes ++ [byte]) lines.length
        = (Division.of bytes).rest ++ [byte] := by
      rw [← counted, Division.after_append bytes [byte] (Nat.le_refl _),
        Division.after_length_lines]
    have full : service.lineLimit
        ≤ ((Division.after (bytes ++ [byte]) lines.length).takeWhile (· ≠ lineFeed)).length := by
      have noFeed : ∀ other ∈ (Division.of bytes).rest ++ [byte], decide (other ≠ lineFeed) := by
        intro other member
        rcases List.mem_append.mp member with kept | last
        · exact decide_eq_true fun feed => Division.lineFeed_not_mem_rest bytes (feed ▸ kept)
        · exact decide_eq_true (List.mem_singleton.mp last ▸ notFeed)
      rw [following, List.takeWhile_eq_self_iff.mpr noFeed, ← current.begun]
      simpa using room
    have first : lines.map some <+: (Division.of (bytes ++ [byte])).lines.map requestLine? :=
      whole ▸ (Division.lines_isPrefix bytes [byte]).map requestLine?
    have took := Took.refused lines answers first (.oversized full)
    rwa [List.append_assoc] at took

/-- One byte leaves a session standing. -/
theorem stands_hearByte (byte : UInt8)
    (stands : turn.session.Stands service.lineLimit bytes (earlier ++ turn.exchanges)) :
    (turn.hearByte service byte).session.Stands service.lineLimit (bytes ++ [byte])
      (earlier ++ (turn.hearByte service byte).exchanges) := by
  rcases stands with current | ⟨isOver, took⟩
  · by_cases feed : byte = lineFeed
    · exact feed ▸ stands_hearByte_lineFeed current
    · exact stands_hearByte_of_ne feed current
  · rw [show turn.hearByte service byte = turn from if_pos isOver]
    exact .inr ⟨isOver, took.append [byte]⟩

/-- So do any bytes. -/
theorem stands_hear (more : List UInt8)
    (stands : turn.session.Stands service.lineLimit bytes (earlier ++ turn.exchanges)) :
    (turn.hear service more).session.Stands service.lineLimit (bytes ++ more)
      (earlier ++ (turn.hear service more).exchanges) := by
  have awaited : turn.session.await service = turn.session := by
    rcases stands with current | ⟨isOver, _⟩
    · exact Session.await_of_lineLimit_ne_zero (Nat.ne_zero_of_lt current.room) _
    · exact Session.await_of_isOver service isOver
  unfold hear
  rw [awaited]
  induction more using List.reverseRecOn with
  | nil => simpa using stands
  | append_singleton front byte inductionHypothesis =>
      rw [← List.append_assoc, List.foldl_append]
      exact stands_hearByte byte inductionHypothesis

/-- A session that has heard nothing stands, once it has turned to what the peer sends. -/
theorem stands_opening (service : Service) (reachable : Bool) :
    ((Session.opening reachable false).await service).Stands service.lineLimit [] [] := by
  by_cases limit : service.lineLimit = 0
  · exact .inr ⟨Session.isOver_await limit _, .answered [] rfl List.nil_prefix⟩
  · rw [Session.await_of_lineLimit_ne_zero limit]
    exact .inl ⟨rfl, rfl, Nat.pos_of_ne_zero limit, [], rfl, rfl⟩

/-- Hearing begins with turning to what the peer sends. -/
theorem hear_await (service : Service) (turn : Turn) (bytes : List UInt8) :
    Turn.hear service { turn with session := turn.session.await service } bytes
      = turn.hear service bytes := by
  have awaited : (turn.session.await service).await service = turn.session.await service := by
    by_cases limit : service.lineLimit = 0
    · exact Session.await_of_isOver service (Session.isOver_await limit _)
    · exact Session.await_of_lineLimit_ne_zero limit _
  unfold hear
  rw [awaited]

/-- A session that has heard bytes from its beginning stands with them. -/
theorem stands_hear_opening (service : Service) (limiter : Limiter) (reachable : Bool)
    (bytes : List UInt8) :
    let turn := Turn.hear service { session := .opening reachable false, limiter } bytes
    turn.session.Stands service.lineLimit bytes turn.exchanges := by
  intro turn
  let start : Turn := { session := (Session.opening reachable false).await service, limiter }
  have stands : start.session.Stands service.lineLimit [] ([] ++ start.exchanges) :=
    stands_opening service reachable
  have heard := stands_hear bytes stands
  have same : start.hear service bytes = turn :=
    hear_await service { session := .opening reachable false, limiter } bytes
  rwa [same] at heard

end

end Turn

end AdmissionControl
