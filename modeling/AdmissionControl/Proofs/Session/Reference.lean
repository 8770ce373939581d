import AdmissionControl.Proofs.Session.Course
import AdmissionControl.Proofs.Session.Pieces

/-!
# What a session makes of a stream

The course of a session is read off the whole lines of the stream. The lines up to the first one
that does not fit or is no text are answered, each with the limiter that the one before it left,
and what follows them is refused, or kept until more comes. How the stream is divided makes no
difference. -/

namespace AdmissionControl

open Wire

/-- Whether a whole line is answered: it fits, terminator included, and is text. -/
def isAnswerable (limit : Nat) (line : List UInt8) : Bool :=
  decide (line.length ≤ limit) && (Text.decode? line).isSome

namespace Division

/-- The whole lines up to the first one that is not answered. -/
def answerable (limit : Nat) (division : Division) : List (List UInt8) :=
  division.lines.takeWhile (isAnswerable limit)

/-- The first whole line that is not answered. -/
def unanswered? (limit : Nat) (division : Division) : Option (List UInt8) :=
  division.lines.find? fun line => !isAnswerable limit line

/-- Why the line after the answered ones is refused. A line does not fit if it is whole and longer
than the limit, or has come to the limit without being whole; a whole line that fits is no text. -/
def refusal? (limit : Nat) (division : Division) : Option Fault :=
  match division.unanswered? limit with
  | some line => some (if limit < line.length then .oversizedLine limit else .undecodableLine)
  | none => if limit ≤ division.rest.length then some (.oversizedLine limit) else none

end Division

/-- The limiter that the last of some answers leaves. -/
def lastState (limiter : Limiter) (answers : List Answer) : Limiter :=
  (answers.getLast?.map Answer.state).getD limiter

/-- Lines together with the replies in their answers. -/
def exchangesOf (lines : List (List Char)) (answers : List Answer) : List Exchange :=
  List.zipWith (fun line answer => .answered line answer.reply) lines answers

namespace Turn

/-- Where a session is that has heard these bytes from its beginning. -/
def reference (service : Service) (limiter : Limiter) (bytes : List UInt8) : Turn :=
  let division := Division.of bytes
  let lines := (division.answerable service.lineLimit).filterMap requestLine?
  let answers := answerLines service.tuning limiter lines
  let refusal? := division.refusal? service.lineLimit
  { session :=
      match refusal? with
      | some fault => { ending := some (.refused fault) }
      | none => { partialLine := division.rest }
    limiter := lastState limiter answers
    exchanges := exchangesOf lines answers ++ (refusal?.map Exchange.refused).toList }

end Turn

section Lines

variable {tuning : Limiter.Tuning}

/-- The first of some lines hands its limiter to the others. -/
theorem lastState_answerLines_cons (limiter : Limiter) (first : List Char)
    (rest : List (List Char)) :
    lastState limiter (answerLines tuning limiter (first :: rest))
      = lastState (answerLine tuning limiter first).state
          (answerLines tuning (answerLine tuning limiter first).state rest) := by
  simp only [answerLines, lastState, List.getLast?_cons, Option.map_some, Option.getD_some]
  cases (answerLines tuning (answerLine tuning limiter first).state rest).getLast? <;> rfl

/-- One more line is answered with the limiter that the lines before it left. -/
theorem answerLines_concat (limiter : Limiter) (lines : List (List Char)) (line : List Char) :
    answerLines tuning limiter (lines ++ [line])
      = answerLines tuning limiter lines
        ++ [answerLine tuning (lastState limiter (answerLines tuning limiter lines)) line] := by
  induction lines generalizing limiter with
  | nil => rfl
  | cons first rest inductionHypothesis =>
      rw [List.cons_append, answerLines, inductionHypothesis, lastState_answerLines_cons]
      rfl

theorem length_answerLines (limiter : Limiter) (lines : List (List Char)) :
    (answerLines tuning limiter lines).length = lines.length := by
  induction lines generalizing limiter with
  | nil => rfl
  | cons line rest inductionHypothesis =>
      rw [answerLines, List.length_cons, List.length_cons, inductionHypothesis]

theorem lastState_concat (limiter : Limiter) (answers : List Answer) (answer : Answer) :
    lastState limiter (answers ++ [answer]) = answer.state := by
  rw [lastState, List.getLast?_concat]
  rfl

theorem exchangesOf_concat {lines : List (List Char)} {answers : List Answer}
    (paired : answers.length = lines.length) (line : List Char) (answer : Answer) :
    exchangesOf (lines ++ [line]) (answers ++ [answer])
      = exchangesOf lines answers ++ [.answered line answer.reply] :=
  List.zipWith_append paired.symm

end Lines

namespace Division

variable {limit : Nat} {bytes : List UInt8}

/-- A line that is not answered ends what is. -/
theorem isAnswerable_of_unanswered? {division : Division} {line : List UInt8}
    (found : division.unanswered? limit = some line) :
    line ∈ division.lines ∧ isAnswerable limit line = false :=
  ⟨List.mem_of_find?_eq_some found, by simpa using List.find?_some found⟩

theorem unanswered?_eq_none_iff {division : Division} :
    division.unanswered? limit = none ↔
      ∀ line ∈ division.lines, isAnswerable limit line = true := by
  simp [unanswered?, List.find?_eq_none]

/-- Nothing is refused as long as every whole line is answered and the line that has begun leaves
room for another byte. -/
theorem refusal?_eq_none_iff {division : Division} :
    division.refusal? limit = none ↔
      (∀ line ∈ division.lines, isAnswerable limit line = true) ∧ division.rest.length < limit := by
  rw [← unanswered?_eq_none_iff, refusal?]
  cases division.unanswered? limit with
  | some line => simp
  | none => simp

/-- A line that has come to the limit is refused if all whole lines were answered. -/
theorem refusal?_of_long {division : Division}
    (all : ∀ line ∈ division.lines, isAnswerable limit line = true)
    (long : limit ≤ division.rest.length) :
    division.refusal? limit = some (.oversizedLine limit) := by
  rw [refusal?, unanswered?_eq_none_iff.mpr all]
  exact if_pos long

theorem answerable_eq_lines {division : Division}
    (all : ∀ line ∈ division.lines, isAnswerable limit line = true) :
    division.answerable limit = division.lines := List.takeWhile_eq_self_iff.mpr all

/-- Lines that come after one that is not answered make no difference. -/
theorem answerable_of_unanswered? {division longer : Division} {line : List UInt8}
    (found : division.unanswered? limit = some line) (continued : division.lines <+: longer.lines) :
    longer.answerable limit = division.answerable limit
      ∧ longer.refusal? limit = division.refusal? limit := by
  obtain ⟨later, linesEq⟩ := continued
  obtain ⟨member, unanswered⟩ := isAnswerable_of_unanswered? found
  constructor
  · have stops :
        (division.lines.takeWhile (isAnswerable limit)).length ≠ division.lines.length := by
      intro same
      have all := List.takeWhile_eq_self_iff.mp ((List.takeWhile_prefix _).eq_of_length same)
      cases (all line member).symm.trans unanswered
    rw [answerable, ← linesEq, List.takeWhile_append, if_neg stops]
    rfl
  · have foundLonger : longer.unanswered? limit = some line := by
      rw [unanswered?, ← linesEq, List.find?_append, ← unanswered?, found]
      rfl
    rw [refusal?, foundLonger, refusal?, found]

/-- A line that is not answered, after lines that all are. -/
theorem answerable_concat {lines : List (List UInt8)} {line : List UInt8}
    (all : ∀ line ∈ lines, isAnswerable limit line = true)
    (unanswered : isAnswerable limit line = false) :
    let division : Division := { lines := lines ++ [line] }
    division.answerable limit = lines
      ∧ division.refusal? limit
        = some (if limit < line.length then .oversizedLine limit else .undecodableLine) := by
  intro division
  constructor
  · rw [answerable, List.takeWhile_append_of_pos all,
      List.takeWhile_cons_of_neg (by simp [unanswered]), List.append_nil]
  · have noneBefore : ({ lines } : Division).unanswered? limit = none :=
      unanswered?_eq_none_iff.mpr all
    have found : division.unanswered? limit = some line := by
      unfold unanswered? at noneBefore ⊢
      rw [List.find?_append, noneBefore, Option.none_or,
        List.find?_cons_of_pos (by simp [unanswered])]
    rw [refusal?, found]

/-- What is refused stays refused when another byte comes, and the lines before it stay the same. -/
theorem refused_concat {fault : Fault} (refused : (of bytes).refusal? limit = some fault)
    (byte : UInt8) :
    (of (bytes ++ [byte])).answerable limit = (of bytes).answerable limit
      ∧ (of (bytes ++ [byte])).refusal? limit = some fault := by
  cases found : (of bytes).unanswered? limit with
  | some line =>
      obtain ⟨sameLines, sameRefusal⟩ :=
        answerable_of_unanswered? found (lines_isPrefix bytes [byte])
      exact ⟨sameLines, sameRefusal.trans refused⟩
  | none =>
      have all := unanswered?_eq_none_iff.mp found
      obtain ⟨long, rfl⟩ : limit ≤ (of bytes).rest.length ∧ .oversizedLine limit = fault := by
        simpa [refusal?, found] using refused
      by_cases feed : byte = Turn.lineFeed
      · have tooLong : limit < ((of bytes).rest ++ [Turn.lineFeed]).length := by
          rw [List.length_append, List.length_singleton]
          omega
        have unanswered : isAnswerable limit ((of bytes).rest ++ [Turn.lineFeed]) = false := by
          rw [isAnswerable, decide_eq_false (Nat.not_le.mpr tooLong), Bool.false_and]
        obtain ⟨answered, refusal⟩ := answerable_concat all unanswered
        rw [feed, of_concat_lineFeed, answerable_eq_lines all]
        exact ⟨answered, refusal.trans (congrArg some (if_pos tooLong))⟩
      · have stillLong : limit ≤ ((of bytes).rest ++ [byte]).length := long.trans (by simp)
        rw [of_concat_of_ne bytes feed]
        exact ⟨rfl, refusal?_of_long all stillLong⟩

end Division

namespace Turn

variable {service : Service} {limiter : Limiter} {bytes : List UInt8}

/-- As long as nothing is refused the session is open and has answered every whole line. -/
theorem reference_of_none (limiter : Limiter)
    (all : ∀ line ∈ (Division.of bytes).lines, isAnswerable service.lineLimit line = true)
    (room : (Division.of bytes).rest.length < service.lineLimit) :
    let lines := (Division.of bytes).lines.filterMap requestLine?
    let answers := answerLines service.tuning limiter lines
    reference service limiter bytes
      = { session := { partialLine := (Division.of bytes).rest }
          limiter := lastState limiter answers
          exchanges := exchangesOf lines answers } := by
  have refusal := Division.refusal?_eq_none_iff.mpr ⟨all, room⟩
  simp only [reference, refusal, Division.answerable_eq_lines all]
  simp

/-- Where a line is refused after all lines before it were answered. -/
theorem refuse_reference {later : List UInt8} {fault : Fault}
    (all : ∀ line ∈ (Division.of bytes).lines, isAnswerable service.lineLimit line = true)
    (room : (Division.of bytes).rest.length < service.lineLimit)
    (answered : (Division.of later).answerable service.lineLimit = (Division.of bytes).lines)
    (refused : (Division.of later).refusal? service.lineLimit = some fault) :
    (reference service limiter bytes).refuse fault = reference service limiter later := by
  rw [reference_of_none limiter all room]
  simp only [reference, answered, refused]
  rfl

/-- A line feed has the line that has begun answered or, as no text, refused. -/
theorem reference_concat_lineFeed
    (all : ∀ line ∈ (Division.of bytes).lines, isAnswerable service.lineLimit line = true)
    (room : (Division.of bytes).rest.length < service.lineLimit) :
    (reference service limiter bytes).hearByte service lineFeed
      = reference service limiter (bytes ++ [lineFeed]) := by
  have sent := Division.of_concat_lineFeed bytes
  have fits : ((Division.of bytes).rest ++ [lineFeed]).length ≤ service.lineLimit := by
    rw [List.length_append, List.length_singleton]
    exact room
  have openTurn := reference_of_none limiter all room
  have heard : (reference service limiter bytes).hearByte service lineFeed
      = (reference service limiter bytes).takeLine service
          ((Division.of bytes).rest ++ [lineFeed]) := by
    rw [openTurn]
    exact hearByte_lineFeed rfl
  rw [heard, takeLine]
  generalize (Division.of bytes).rest ++ [lineFeed] = line at sent fits
  cases decoded : Text.decode? line with
  | some text =>
      have answered : isAnswerable service.lineLimit line = true := by
        simp [isAnswerable, fits, decoded]
      have allLater : ∀ other ∈ (Division.of (bytes ++ [lineFeed])).lines,
          isAnswerable service.lineLimit other = true := by
        rw [sent]
        intro other member
        rcases List.mem_append.mp member with earlier | last
        · exact all other earlier
        · exact List.mem_singleton.mp last ▸ answered
      have roomLater : (Division.of (bytes ++ [lineFeed])).rest.length < service.lineLimit := by
        rw [sent]
        exact Nat.zero_lt_of_lt room
      have lines : (Division.of (bytes ++ [lineFeed])).lines.filterMap requestLine?
          = (Division.of bytes).lines.filterMap requestLine?
            ++ [Text.dropEndWhile isTerminator text] := by
        rw [sent, List.filterMap_append]
        simp [requestLine?, decoded]
      rw [reference_of_none limiter allLater roomLater, lines, answerLines_concat, lastState_concat,
        exchangesOf_concat (length_answerLines limiter _), sent, openTurn]
      rfl
  | none =>
      have unanswered : isAnswerable service.lineLimit line = false := by
        simp [isAnswerable, decoded]
      obtain ⟨earlier, refusal⟩ := Division.answerable_concat all unanswered
      rw [if_neg (Nat.not_lt.mpr fits)] at refusal
      exact refuse_reference all room (sent ▸ earlier) (sent ▸ refusal)

/-- Any other byte is kept if it leaves room for another one, and otherwise the line is refused. -/
theorem reference_concat_of_ne
    (all : ∀ line ∈ (Division.of bytes).lines, isAnswerable service.lineLimit line = true)
    (room : (Division.of bytes).rest.length < service.lineLimit) {byte : UInt8}
    (notFeed : byte ≠ lineFeed) :
    (reference service limiter bytes).hearByte service byte
      = reference service limiter (bytes ++ [byte]) := by
  have sent := Division.of_concat_of_ne bytes notFeed
  have openTurn := reference_of_none limiter all room
  have isOpen : (reference service limiter bytes).session.isOver = false := by
    rw [openTurn]
    rfl
  have begun :
      (reference service limiter bytes).session.partialLine = (Division.of bytes).rest := by
    rw [openTurn]
  by_cases roomLater : ((Division.of bytes).rest ++ [byte]).length < service.lineLimit
  · have kept : (reference service limiter bytes).session.partialLine.length + 1
        < service.lineLimit := by
      rw [begun]
      simpa using roomLater
    have allLater : ∀ other ∈ (Division.of (bytes ++ [byte])).lines,
        isAnswerable service.lineLimit other = true := sent ▸ all
    rw [hearByte_kept isOpen notFeed kept, begun, openTurn,
      reference_of_none limiter allLater (sent ▸ roomLater), sent]
    rfl
  · have full : service.lineLimit
        ≤ (reference service limiter bytes).session.partialLine.length + 1 := by
      rw [begun]
      simpa using roomLater
    rw [hearByte_refused isOpen notFeed full]
    refine refuse_reference all room ?_ ?_
    · rw [sent]
      exact Division.answerable_eq_lines all
    · rw [sent]
      exact Division.refusal?_of_long all (Nat.not_lt.mp roomLater)

/-- One byte more. -/
theorem reference_concat (byte : UInt8) :
    (reference service limiter bytes).hearByte service byte
      = reference service limiter (bytes ++ [byte]) := by
  cases refusal : (Division.of bytes).refusal? service.lineLimit with
  | none =>
      obtain ⟨all, room⟩ := Division.refusal?_eq_none_iff.mp refusal
      by_cases feed : byte = lineFeed
      · exact feed ▸ reference_concat_lineFeed all room
      · exact reference_concat_of_ne all room feed
  | some fault =>
      obtain ⟨sameLines, sameRefusal⟩ := Division.refused_concat refusal byte
      have isOver : (reference service limiter bytes).session.isOver = true := by
        simp only [reference, refusal]
        rfl
      rw [show (reference service limiter bytes).hearByte service byte = _ from if_pos isOver]
      simp only [reference, refusal, sameLines, sameRefusal]

/-- A session is where its whole lines say. -/
theorem hear_eq_reference (positive : service.lineLimit ≠ 0) :
    Turn.hear service { session := .opening true false, limiter } bytes
      = reference service limiter bytes := by
  rw [hear, Session.await_of_lineLimit_ne_zero positive]
  induction bytes using List.reverseRecOn with
  | nil =>
      have none : ({} : Division).refusal? service.lineLimit = none :=
        Division.refusal?_eq_none_iff.mpr ⟨by simp, Nat.pos_of_ne_zero positive⟩
      simp only [reference, show Division.of [] = {} from rfl, none]
      rfl
  | append_singleton front byte inductionHypothesis =>
      rw [List.foldl_append, inductionHypothesis]
      exact reference_concat byte

/-- All that a session has sent. -/
def output (turn : Turn) : List Char := turn.exchanges.flatMap Exchange.reply

theorem flatMap_reply_exchangesOf {lines : List (List Char)} {answers : List Answer}
    (paired : answers.length = lines.length) :
    (exchangesOf lines answers).flatMap Exchange.reply = answers.flatMap Answer.reply := by
  induction lines generalizing answers with
  | nil =>
      rw [List.eq_nil_of_length_eq_zero paired]
      rfl
  | cons line rest inductionHypothesis =>
      obtain ⟨answer, later, rfl⟩ := List.exists_cons_of_length_eq_add_one paired
      exact congrArg (answer.reply ++ ·) (inductionHypothesis (Nat.succ.inj paired))

/-- What is sent is the replies of the answers, and one more where a line is refused. -/
theorem output_reference (service : Service) (limiter : Limiter) (bytes : List UInt8) :
    let division := Division.of bytes
    let lines := (division.answerable service.lineLimit).filterMap requestLine?
    (reference service limiter bytes).output
      = (answerLines service.tuning limiter lines).flatMap Answer.reply
        ++ if (division.refusal? service.lineLimit).isSome then Reply.unknown else [] := by
  intro division lines
  rw [output, reference, List.flatMap_append,
    flatMap_reply_exchangesOf (length_answerLines limiter lines)]
  cases division.refusal? service.lineLimit with
  | none => rfl
  | some fault => rfl

/-- A session is over when a line was refused, and open otherwise. -/
theorem ending_reference (service : Service) (limiter : Limiter) (bytes : List UInt8) :
    (reference service limiter bytes).session.ending
      = ((Division.of bytes).refusal? service.lineLimit).map .refused := by
  rw [reference]
  cases (Division.of bytes).refusal? service.lineLimit with
  | none => rfl
  | some fault => rfl

end Turn

namespace Session

/-- The end of the stream closes a session that is still open. -/
theorem ending_hearEnd (session : Session) :
    session.hearEnd.ending = some (session.ending.getD .closed) := by
  unfold hearEnd isOver
  cases ended : session.ending with
  | none => rfl
  | some ending => exact ended

end Session

namespace Intake

/-- How a session frames what its peer sends, in whatever pieces it comes and whether the stream
ends or not. The whole lines up to the first one that does not fit or is no text are answered in
order, each with the limiter that the one before it left. A line that is refused is answered as
unknown and ends the session; nothing after it is looked at. What has come of a line when the
stream ends is dropped, and the session is closed. All this depends on the bytes alone, and looking
at every byte by itself comes to the same. -/
theorem foldl_hearPiece_reference (service : Service) (positive : 1 ≤ service.lineLimit)
    (limiter : Limiter) (pieces : List (List UInt8)) :
    let division := Division.of pieces.flatten
    let lines := (division.answerable service.lineLimit).filterMap requestLine?
    let answers := answerLines service.tuning limiter lines
    let refusal? := division.refusal? service.lineLimit
    let start := begin service { session := .opening true false, limiter }
    let heard := pieces.foldl (hearPiece service) start
    let ended := heard.hearEnd service
    heard.turn.output
        = answers.flatMap Answer.reply ++ (if refusal?.isSome then Reply.unknown else [])
      ∧ heard.turn.limiter = lastState limiter answers
      ∧ heard.turn.session.ending = refusal?.map .refused
      ∧ ended.turn.output = heard.turn.output
      ∧ ended.turn.limiter = heard.turn.limiter
      ∧ ended.turn.session.ending = some ((refusal?.map .refused).getD .closed)
      ∧ (∀ others : List (List UInt8), others.flatten = pieces.flatten →
          let divided := others.foldl (hearPiece service) start
          divided.turn = heard.turn ∧ (divided.hearEnd service).turn = ended.turn)
      ∧ heard.turn = Turn.hear service start.turn pieces.flatten := by
  intro division lines answers refusal? start heard ended
  have limit : service.lineLimit ≠ 0 := Nat.ne_of_gt positive
  have atWork : start.IsAtWork service := isAtWork_begin rfl
  have anyHeard (others : List (List UInt8)) :
      (others.foldl (hearPiece service) start).turn
        = Turn.hear service start.turn others.flatten
      ∧ ((others.foldl (hearPiece service) start).hearEnd service).turn
        = { Turn.hear service start.turn others.flatten with
            session := (Turn.hear service start.turn others.flatten).session.hearEnd } := by
    obtain ⟨heardEq, stillAtWork⟩ := foldl_hearPiece_turn atWork others
    rw [Turn.foldl_hear limit] at heardEq
    exact ⟨heardEq, heardEq ▸ hearEnd_turn stillAtWork⟩
  obtain ⟨byBytes, endedEq⟩ := anyHeard pieces
  have heardEq : heard.turn = Turn.reference service limiter pieces.flatten :=
    byBytes.trans (Turn.hear_eq_reference limit)
  have heardEnding : heard.turn.session.ending = refusal?.map .refused :=
    heardEq ▸ Turn.ending_reference service limiter pieces.flatten
  rw [← byBytes] at endedEq
  have sameOutput : ended.turn.output = heard.turn.output :=
    (congrArg Turn.output endedEq).trans rfl
  have sameLimiter : ended.turn.limiter = heard.turn.limiter :=
    (congrArg Turn.limiter endedEq).trans rfl
  have ending : ended.turn.session.ending = some ((refusal?.map .refused).getD .closed) := by
    rw [← heardEnding, ← Session.ending_hearEnd]
    exact congrArg (·.session.ending) endedEq
  refine ⟨?_, ?_, heardEnding, sameOutput, sameLimiter, ending, ?_, byBytes⟩
  · rw [heardEq]
    exact Turn.output_reference service limiter pieces.flatten
  · rw [heardEq]
    rfl
  · intro others same
    obtain ⟨otherHeard, otherEnded⟩ := anyHeard others
    rw [same] at otherHeard otherEnded
    exact ⟨otherHeard.trans byBytes.symm, otherEnded.trans (byBytes ▸ endedEq).symm⟩

/-- With room for six bytes the last byte that is permitted may end a line. Here the two bytes of a
character come apart, and the line that holds them does not fit. -/
theorem foldl_hearPiece_reference_split_character :
    let service : Service :=
      { tuning := { initialLimit := 4, targetMilliseconds := 300 }, lineLimit := 6 }
    let pieces : List (List UInt8) :=
      [Text.encode "STA".toList, Text.encode "TS\nX\nABC".toList ++ [0xc3], [0xa9, 0x44, 0x0a]]
    let heard := pieces.foldl (hearPiece service)
      (begin service { session := .opening true false, limiter := .fresh service.tuning })
    1 ≤ service.lineLimit
      ∧ heard.turn.output
        = "limit=4 inflight=0 degraded=0\nERR unknown\nERR unknown\n".toList
      ∧ heard.turn.session.ending = some (.refused (.oversizedLine 6)) := by
  intro service pieces heard
  obtain ⟨output, _, ending, _⟩ :=
    foldl_hearPiece_reference service (by decide) (.fresh service.tuning) pieces
  refine ⟨by decide, output.trans ?_, ending.trans ?_⟩
  · decide +kernel
  · decide +kernel

end Intake

end AdmissionControl
