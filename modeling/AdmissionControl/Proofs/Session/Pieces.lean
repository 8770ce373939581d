import AdmissionControl.Proofs.Session.Framing
import AdmissionControl.Session.Intake

/-!
# Pieces and bytes

A session that reads from pieces, looking for line feeds within the room of a line, comes to where
it would be if it had looked at every byte by itself. The reason is one equation: the room of a read
and the line it has taken make up the limit, whether or not a shutdown has interrupted the read.
-/

namespace AdmissionControl

open Wire

namespace Turn

variable {service : Service} {turn : Turn} {front : List UInt8}

/-- Bytes of a line that leave room for another one are kept. -/
theorem hear_kept (isOpen : turn.session.isOver = false) (noFeed : lineFeed ∉ front)
    (room : turn.session.partialLine.length + front.length < service.lineLimit) :
    turn.hear service front = turn.withPartialLine (turn.session.partialLine ++ front) := by
  rw [hear, Session.await_of_lineLimit_ne_zero (Nat.ne_zero_of_lt room)]
  exact foldl_hearByte_kept isOpen noFeed room

/-- The end of a line that has begun and fits has the line taken. -/
theorem hear_whole (isOpen : turn.session.isOver = false) (noFeed : lineFeed ∉ front)
    (room : turn.session.partialLine.length + front.length < service.lineLimit) :
    turn.hear service (front ++ [lineFeed])
      = turn.takeLine service (turn.session.partialLine ++ front ++ [lineFeed]) := by
  have stillOpen := isOver_withPartialLine isOpen (turn.session.partialLine ++ front)
  rw [hear_append, hear_kept isOpen noFeed room, hear,
    Session.await_of_lineLimit_ne_zero (Nat.ne_zero_of_lt room), List.foldl_cons, List.foldl_nil,
    hearByte_lineFeed stillOpen]
  exact takeLine_withPartialLine turn _ _

/-- Bytes that fill up a line without ending it have the line refused. -/
theorem hear_full (isOpen : turn.session.isOver = false) (noFeed : lineFeed ∉ front)
    (begun : turn.session.partialLine.length < service.lineLimit)
    (full : service.lineLimit ≤ turn.session.partialLine.length + front.length) :
    turn.hear service front = turn.refuse (.oversizedLine service.lineLimit) := by
  rw [hear, Session.await_of_lineLimit_ne_zero (Nat.ne_zero_of_lt begun)]
  exact foldl_hearByte_refused isOpen noFeed begun full

/-- Nothing is heard after the end of a session. -/
theorem hear_of_isOver (isOver : turn.session.isOver = true) (bytes : List UInt8) :
    turn.hear service bytes = turn := by
  rw [hear, Session.await_of_isOver service isOver]
  exact foldl_hearByte_of_isOver service bytes isOver

end Turn

namespace Intake

variable {service : Service} {intake : Intake}

/-- The read of an open session. Without room it has taken nothing, so no byte fits into a line. -/
structure IsReading (service : Service) (intake : Intake) : Prop where
  isOpen : intake.turn.session.isOver = false
  room : intake.room + intake.line.length = service.lineLimit
  noFeed : Turn.lineFeed ∉ intake.line
  unused : intake.room = 0 → intake.taken = 0 ∧ intake.line = []

/-- The session is over or reads. -/
def IsAtWork (service : Service) (intake : Intake) : Prop :=
  intake.turn.session.isOver = true ∨ intake.IsReading service

/-- An open session between lines begins to read. -/
theorem isAtWork_begin {turn : Turn} (idle : turn.session.partialLine = []) :
    (begin service turn).IsAtWork service := by
  cases isOver : turn.session.isOver with
  | true => exact .inl isOver
  | false =>
      have empty : (begin service turn).line = [] := idle
      refine .inr ⟨isOver, ?_, ?_, fun _ => ⟨rfl, empty⟩⟩
      · rw [empty]
        rfl
      · rw [empty]
        exact List.not_mem_nil

theorem IsReading.lineLimit_eq_zero (reading : intake.IsReading service)
    (full : intake.room = 0) : service.lineLimit = 0 := by
  rw [← reading.room, full, (reading.unused full).2]
  rfl

theorem turn_add (intake : Intake) (bytes : List UInt8) :
    (intake.add bytes).turn = intake.turn.withPartialLine (intake.line ++ bytes) := rfl

theorem partialLine_takeLine (service : Service) (turn : Turn) (line : List UInt8) :
    (turn.takeLine service line).session.partialLine = [] := by
  unfold Turn.takeLine
  split <;> rfl

/-- A read that finds the end of its line takes the line. -/
theorem conclude_of_whole (front : List UInt8) :
    (intake.add (front ++ [Turn.lineFeed])).conclude service
      = begin service (intake.turn.takeLine service (intake.line ++ front ++ [Turn.lineFeed])) := by
  have lineEq : (intake.add (front ++ [Turn.lineFeed])).line
      = intake.line ++ front ++ [Turn.lineFeed] := (List.append_assoc _ _ _).symm
  have taken : (intake.add (front ++ [Turn.lineFeed])).taken ≠ 0 := by
    simp [add]
  rw [conclude, if_neg taken, lineEq, if_pos List.getLast?_concat, turn_add,
    Turn.takeLine_withPartialLine]

/-- A read that has used up its room without an end of the line refuses the line. -/
theorem conclude_of_long (reading : intake.IsReading service) {front : List UInt8}
    (noFeed : Turn.lineFeed ∉ front) (nonempty : front ≠ [])
    (full : intake.room ≤ front.length) :
    ((intake.add front).conclude service).turn
      = intake.turn.refuse (.oversizedLine service.lineLimit) := by
  have taken : (intake.add front).taken ≠ 0 := by
    have := List.length_pos_iff.mpr nonempty
    simp only [add]
    omega
  have unended : (intake.add front).line.getLast? ≠ some Turn.lineFeed := by
    intro last
    rcases List.mem_append.mp (List.mem_of_getLast? last) with kept | added
    · exact reading.noFeed kept
    · exact noFeed added
  have long : service.lineLimit ≤ (intake.add front).line.length := by
    have whole : (intake.add front).line.length = intake.line.length + front.length :=
      List.length_append
    have room := reading.room
    omega
  rw [conclude, if_neg taken, if_neg unended, if_pos long]
  rfl

/-- A read that can take no more and has no whole line ends the session as the end of the stream
does. -/
theorem hearEnd_turn (atWork : intake.IsAtWork service) :
    (intake.hearEnd service).turn
      = { intake.turn with session := intake.turn.session.hearEnd } := by
  rcases atWork with isOver | reading
  · rw [hearEnd, if_pos isOver, Session.hearEnd, if_pos isOver]
  · rw [hearEnd, if_neg (by simp [reading.isOpen]), conclude]
    split
    · rfl
    · next taken =>
      have unended : intake.line.getLast? ≠ some Turn.lineFeed := fun last =>
        reading.noFeed (List.mem_of_getLast? last)
      have short : ¬ service.lineLimit ≤ intake.line.length := by
        intro long
        have room := reading.room
        exact taken (reading.unused (by omega)).1
      rw [if_neg unended, if_neg short]

theorem hearPiece_of_isOver (isOver : intake.turn.session.isOver = true) (piece : List UInt8) :
    intake.hearPiece service piece = intake := by
  rw [hearPiece, if_pos isOver]

/-- A read without room ends before it looks at a piece. -/
theorem hearPiece_of_full (isOpen : intake.turn.session.isOver = false) (full : intake.room = 0)
    (piece : List UInt8) : intake.hearPiece service piece = intake.conclude service := by
  rw [hearPiece, if_neg (by simp [isOpen]), if_pos full]

/-- Where not a single byte fits into a line, the session ends as at the end of the stream. -/
theorem conclude_of_unused (reading : intake.IsReading service) (full : intake.room = 0)
    (piece : List UInt8) :
    (intake.conclude service).turn = intake.turn.hear service piece
      ∧ (intake.conclude service).turn.session.isOver = true := by
  have limit := reading.lineLimit_eq_zero full
  have awaited : intake.turn.session.await service = intake.turn.session.hearEnd := by
    simp [Session.await, Session.hearEnd, limit]
  have ended := Session.isOver_await limit intake.turn.session
  rw [conclude, if_pos (reading.unused full).1, Turn.hear,
    Turn.foldl_hearByte_of_isOver service piece ended, awaited]
  exact ⟨rfl, awaited ▸ ended⟩

/-- A piece whose bytes up to a line feed fit is taken up to there, and then the rest of it. -/
theorem hearPiece_of_whole (isOpen : intake.turn.session.isOver = false) {front : List UInt8}
    (noFeed : Turn.lineFeed ∉ front) (fits : front.length < intake.room) (rest : List UInt8) :
    intake.hearPiece service (front ++ Turn.lineFeed :: rest)
      = (begin service (intake.turn.takeLine service
          (intake.line ++ front ++ [Turn.lineFeed]))).hearPiece service rest := by
  obtain ⟨more, room⟩ := Nat.exists_eq_add_of_lt fits
  have seen : (front ++ Turn.lineFeed :: rest).take intake.room
      = front ++ Turn.lineFeed :: rest.take more := by
    rw [room, Nat.add_assoc, List.take_length_add_append, List.take_succ_cons]
  have dropped : (front ++ Turn.lineFeed :: rest).drop (front.length + 1) = rest := by simp
  rw [hearPiece, if_neg (by simp [isOpen]), if_neg (Nat.ne_zero_of_lt fits),
    dif_neg (by simp), seen, Text.cut?_append noFeed]
  dsimp only
  rw [conclude_of_whole, dropped]

/-- Otherwise the line takes what it has room for, and the read goes on with the rest. -/
theorem hearPiece_of_unended (isOpen : intake.turn.session.isOver = false)
    (room : intake.room ≠ 0) {piece : List UInt8}
    (noFeed : Turn.lineFeed ∉ piece.take intake.room) :
    intake.hearPiece service piece
      = (intake.add (piece.take intake.room)).hearPiece service (piece.drop intake.room) := by
  by_cases empty : piece = []
  · rw [empty, List.take_nil, List.drop_nil]
    simp [add, line]
  · rw [hearPiece, if_neg (by simp [isOpen]), if_neg room, dif_neg empty,
      Text.cut?_eq_none_iff.mpr noFeed]

/-- A read with room waits for the next piece. -/
theorem hearPiece_nil (isOpen : intake.turn.session.isOver = false) (room : intake.room ≠ 0) :
    intake.hearPiece service [] = intake := by
  rw [hearPiece, if_neg (by simp [isOpen]), if_neg room, dif_pos rfl]

/-- A piece within a line that leaves room for another byte is kept. -/
theorem IsReading.hearPiece_kept (reading : intake.IsReading service) {piece : List UInt8}
    (noFeed : Turn.lineFeed ∉ piece) (short : piece.length < intake.room) :
    intake.hearPiece service piece = intake.add piece
      ∧ (intake.add piece).IsReading service := by
  have left : (intake.add piece).room = intake.room - piece.length := rfl
  have whole : (intake.add piece).line.length = intake.line.length + piece.length :=
    List.length_append
  have limit := reading.room
  constructor
  · have taken : piece.take intake.room = piece := List.take_of_length_le (Nat.le_of_lt short)
    rw [hearPiece_of_unended reading.isOpen (Nat.ne_zero_of_lt short) (taken.symm ▸ noFeed), taken,
      List.drop_of_length_le (Nat.le_of_lt short)]
    exact hearPiece_nil reading.isOpen (by omega)
  · refine ⟨reading.isOpen, by omega, ?_, fun full => by omega⟩
    intro member
    exact (List.mem_append.mp member).elim reading.noFeed noFeed

/-- A piece that uses up the room within a line has the line refused. -/
theorem IsReading.hearPiece_refused (reading : intake.IsReading service) {piece : List UInt8}
    (room : intake.room ≠ 0) (noFeed : Turn.lineFeed ∉ piece.take intake.room)
    (long : intake.room ≤ piece.length) :
    (intake.hearPiece service piece).turn
      = intake.turn.refuse (.oversizedLine service.lineLimit) := by
  have taken : (piece.take intake.room).length = intake.room := by
    rw [List.length_take, Nat.min_eq_left long]
  have full : (intake.add (piece.take intake.room)).room = 0 := by
    simp only [add, taken, Nat.sub_self]
  have nonempty : piece.take intake.room ≠ [] := by
    intro empty
    rw [empty] at taken
    exact room taken.symm
  have stillOpen : (intake.add (piece.take intake.room)).turn.session.isOver = false :=
    reading.isOpen
  rw [hearPiece_of_unended reading.isOpen room noFeed, hearPiece_of_full stillOpen full]
  exact conclude_of_long reading noFeed nonempty (Nat.le_of_eq taken.symm)

/-- Taking a piece is taking its bytes one by one. -/
theorem hearPiece_turn (atWork : intake.IsAtWork service) (piece : List UInt8) :
    (intake.hearPiece service piece).turn = intake.turn.hear service piece
      ∧ (intake.hearPiece service piece).IsAtWork service := by
  induction size : piece.length using Nat.strongRecOn generalizing intake piece with
  | _ n shorter =>
    rcases atWork with isOver | reading
    · rw [hearPiece_of_isOver isOver, Turn.hear_of_isOver isOver]
      exact ⟨rfl, .inl isOver⟩
    have isOpen := reading.isOpen
    have limit : intake.room + intake.turn.session.partialLine.length = service.lineLimit :=
      reading.room
    by_cases full : intake.room = 0
    · rw [hearPiece_of_full isOpen full]
      obtain ⟨heard, isOver⟩ := conclude_of_unused reading full piece
      exact ⟨heard, .inl isOver⟩
    cases found : Text.cut? Turn.lineFeed (piece.take intake.room) with
    | some sides =>
        obtain ⟨front, more⟩ := sides
        obtain ⟨seen, noFeed⟩ := Text.eq_append_of_cut? found
        have fits : front.length < intake.room := by
          have bound := List.length_take_le intake.room piece
          rw [seen, List.length_append, List.length_cons] at bound
          omega
        obtain ⟨rest, rfl⟩ : ∃ rest, piece = front ++ Turn.lineFeed :: rest := by
          refine ⟨more ++ piece.drop intake.room, ?_⟩
          rw [← List.cons_append, ← List.append_assoc, ← seen, List.take_append_drop]
        have restShorter : rest.length < n := by
          rw [← size, List.length_append, List.length_cons]
          omega
        have taken : intake.turn.hear service (front ++ [Turn.lineFeed])
            = intake.turn.takeLine service (intake.line ++ front ++ [Turn.lineFeed]) :=
          Turn.hear_whole isOpen noFeed (by omega)
        have idle := partialLine_takeLine service intake.turn
          (intake.line ++ front ++ [Turn.lineFeed])
        obtain ⟨heard, atWork⟩ := shorter rest.length restShorter (isAtWork_begin idle) rest rfl
        rw [hearPiece_of_whole isOpen noFeed fits, List.append_cons front, Turn.hear_append, taken]
        exact ⟨heard, atWork⟩
    | none =>
        have noFeed := Text.cut?_eq_none_iff.mp found
        by_cases short : piece.length < intake.room
        · rw [List.take_of_length_le (Nat.le_of_lt short)] at noFeed
          obtain ⟨kept, stillReading⟩ := reading.hearPiece_kept noFeed short
          rw [kept, Turn.hear_kept isOpen noFeed (by omega)]
          exact ⟨rfl, .inr stillReading⟩
        · have long := Nat.not_lt.mp short
          have refused := reading.hearPiece_refused full noFeed long
          have filled : service.lineLimit ≤ intake.turn.session.partialLine.length
              + (piece.take intake.room).length := by
            rw [List.length_take, Nat.min_eq_left long]
            omega
          have heard : intake.turn.hear service piece
              = intake.turn.refuse (.oversizedLine service.lineLimit) := by
            rw [← List.take_append_drop intake.room piece, Turn.hear_append,
              Turn.hear_full isOpen noFeed (by omega) filled]
            exact Turn.hear_of_isOver rfl _
          exact ⟨refused.trans heard.symm, .inl (refused ▸ rfl)⟩

/-- Taking pieces is taking the bytes of each one by one. -/
theorem foldl_hearPiece_turn (atWork : intake.IsAtWork service) (pieces : List (List UInt8)) :
    (pieces.foldl (hearPiece service) intake).turn = pieces.foldl (Turn.hear service) intake.turn
      ∧ (pieces.foldl (hearPiece service) intake).IsAtWork service := by
  induction pieces generalizing intake with
  | nil => exact ⟨rfl, atWork⟩
  | cons piece rest inductionHypothesis =>
      obtain ⟨heard, stillAtWork⟩ := hearPiece_turn atWork piece
      rw [List.foldl_cons, List.foldl_cons, ← heard]
      exact inductionHypothesis stillAtWork

/-- A shutdown that a read has not heard of changes nothing about it. -/
theorem IsAtWork.signal (atWork : intake.IsAtWork service) : intake.signal.IsAtWork service := by
  rcases atWork with isOver | reading
  · left
    simp [Intake.signal, Session.signal, isOver]
  · have signaled : intake.turn.session.signal = { intake.turn.session with stopping := true } :=
      if_neg (by simp [reading.isOpen])
    refine .inr ⟨?_, ?_, ?_, ?_⟩
    all_goals simp only [Intake.signal, line, signaled]
    · exact reading.isOpen
    · exact reading.room
    · exact reading.noFeed
    · exact reading.unused

/-- A read that hears of a shutdown inside a line goes on with the room that is left. -/
theorem IsAtWork.heed (atWork : intake.IsAtWork service) : intake.heed.IsAtWork service := by
  rcases atWork with isOver | reading
  · left
    simp [Intake.heed, Session.heed, isOver]
  · cases heard : intake.turn.session.heed.isOver with
    | true => exact .inl heard
    | false =>
        have sameLine : intake.heed.line = intake.line := by
          simp only [line, Intake.heed, Session.heed]
          split <;> rfl
        refine .inr ⟨heard, ?_, ?_, fun full => ⟨rfl, ?_⟩⟩
        · rw [sameLine]
          exact reading.room
        · rw [sameLine]
          exact reading.noFeed
        · rw [sameLine]
          exact (reading.unused full).2

end Intake

/-- It does not matter how bytes are divided into pieces. -/
theorem Turn.foldl_hear {service : Service} (positive : service.lineLimit ≠ 0) (turn : Turn)
    (pieces : List (List UInt8)) :
    pieces.foldl (Turn.hear service) turn = turn.hear service pieces.flatten := by
  induction pieces generalizing turn with
  | nil =>
      rw [hear, Session.await_of_lineLimit_ne_zero positive]
      rfl
  | cons piece rest inductionHypothesis =>
      rw [List.foldl_cons, inductionHypothesis, List.flatten_cons, hear_append]

end AdmissionControl
