import AdmissionControl.Proofs.Wire.RequestCodec
import AdmissionControl.Session.Basic

/-!
# Lines on a connection

The bytes of one line either all fit within the limit, terminator included, and are then taken
together, or the line is refused at the last byte that fits. Nothing in between is possible, since
only the last byte of a line is a line feed.
-/

namespace AdmissionControl

open Wire

namespace Turn

variable {service : Service} {turn : Turn}

/-- The turn with these bytes as what it has of a line. -/
def withPartialLine (turn : Turn) (bytes : List UInt8) : Turn :=
  { turn with session := { turn.session with partialLine := bytes } }

@[simp] theorem partialLine_withPartialLine (turn : Turn) (bytes : List UInt8) :
    (turn.withPartialLine bytes).session.partialLine = bytes := rfl

@[simp] theorem withPartialLine_withPartialLine (turn : Turn) (kept bytes : List UInt8) :
    (turn.withPartialLine kept).withPartialLine bytes = turn.withPartialLine bytes := rfl

theorem isOver_withPartialLine (isOpen : turn.session.isOver = false) (bytes : List UInt8) :
    (turn.withPartialLine bytes).session.isOver = false := isOpen

/-- What a line is answered with does not depend on how much of it was kept before. -/
theorem takeLine_withPartialLine (turn : Turn) (kept line : List UInt8) :
    (turn.withPartialLine kept).takeLine service line = turn.takeLine service line := by
  unfold takeLine
  cases Text.decode? line <;> rfl

/-- A byte that neither ends the line nor fills it up is kept. -/
theorem hearByte_kept {byte : UInt8} (isOpen : turn.session.isOver = false)
    (notFeed : byte ≠ lineFeed)
    (room : turn.session.partialLine.length + 1 < service.lineLimit) :
    turn.hearByte service byte = turn.withPartialLine (turn.session.partialLine ++ [byte]) := by
  have short : ¬ service.lineLimit ≤ (turn.session.partialLine ++ [byte]).length := by
    rw [List.length_append, List.length_singleton]
    omega
  unfold hearByte
  dsimp only
  rw [if_neg (by simp [isOpen]), if_neg notFeed, if_neg short]
  rfl

/-- A byte that fills the line up without ending it has the line refused. -/
theorem hearByte_refused {byte : UInt8} (isOpen : turn.session.isOver = false)
    (notFeed : byte ≠ lineFeed)
    (full : service.lineLimit ≤ turn.session.partialLine.length + 1) :
    turn.hearByte service byte = turn.refuse (.oversizedLine service.lineLimit) := by
  have long : service.lineLimit ≤ (turn.session.partialLine ++ [byte]).length := by
    rwa [List.length_append, List.length_singleton]
  unfold hearByte
  dsimp only
  rw [if_neg (by simp [isOpen]), if_neg notFeed, if_pos long]

/-- A line feed ends the line. -/
theorem hearByte_lineFeed (isOpen : turn.session.isOver = false) :
    turn.hearByte service lineFeed
      = turn.takeLine service (turn.session.partialLine ++ [lineFeed]) := by
  unfold hearByte
  dsimp only
  rw [if_neg (by simp [isOpen]), if_pos rfl]

/-- Bytes of a line that leave room for another one are kept. -/
theorem foldl_hearByte_kept {bytes : List UInt8} (isOpen : turn.session.isOver = false)
    (noFeed : lineFeed ∉ bytes)
    (room : turn.session.partialLine.length + bytes.length < service.lineLimit) :
    bytes.foldl (hearByte service) turn
      = turn.withPartialLine (turn.session.partialLine ++ bytes) := by
  induction bytes generalizing turn with
  | nil =>
      rw [List.append_nil]
      rfl
  | cons byte rest inductionHypothesis =>
      obtain ⟨notFeed, later⟩ := not_or.mp (mt List.mem_cons.mpr noFeed)
      rw [List.length_cons] at room
      have shifted : (turn.session.partialLine ++ [byte]).length + rest.length
          < service.lineLimit := by
        rw [List.length_append, List.length_singleton]
        omega
      rw [List.foldl_cons, hearByte_kept isOpen (Ne.symm notFeed) (by omega)]
      refine (inductionHypothesis (isOver_withPartialLine isOpen _) later shifted).trans ?_
      rw [partialLine_withPartialLine, withPartialLine_withPartialLine, ← List.append_cons]

/-- Bytes that fill a line up without ending it have the line refused, and nothing after them is
looked at. -/
theorem foldl_hearByte_refused {bytes : List UInt8} (isOpen : turn.session.isOver = false)
    (noFeed : lineFeed ∉ bytes) (begun : turn.session.partialLine.length < service.lineLimit)
    (full : service.lineLimit ≤ turn.session.partialLine.length + bytes.length) :
    bytes.foldl (hearByte service) turn = turn.refuse (.oversizedLine service.lineLimit) := by
  induction bytes generalizing turn with
  | nil =>
      rw [List.length_nil] at full
      omega
  | cons byte rest inductionHypothesis =>
      obtain ⟨notFeed, later⟩ := not_or.mp (mt List.mem_cons.mpr noFeed)
      rw [List.length_cons] at full
      rw [List.foldl_cons]
      by_cases room : turn.session.partialLine.length + 1 < service.lineLimit
      · have lengthEq : (turn.session.partialLine ++ [byte]).length
            = turn.session.partialLine.length + 1 := by
          rw [List.length_append, List.length_singleton]
        rw [hearByte_kept isOpen (Ne.symm notFeed) room]
        refine inductionHypothesis (isOver_withPartialLine isOpen _) later ?_ ?_
        · exact lengthEq ▸ room
        · rw [partialLine_withPartialLine]
          omega
      · rw [hearByte_refused isOpen (Ne.symm notFeed) (Nat.not_lt.mp room),
          foldl_hearByte_of_isOver service rest rfl]

variable {bytes : List UInt8}

/-- A line that fits is taken as a whole. -/
theorem hear_line (idle : turn.session = {}) (noFeed : lineFeed ∉ bytes)
    (fits : bytes.length + 1 ≤ service.lineLimit) :
    turn.hear service (bytes ++ [lineFeed]) = turn.takeLine service (bytes ++ [lineFeed]) := by
  have isOpen : turn.session.isOver = false := by rw [idle]; rfl
  have empty : turn.session.partialLine = [] := by rw [idle]
  have limit : service.lineLimit ≠ 0 := by omega
  rw [hear, Session.await_of_lineLimit_ne_zero limit, List.foldl_append,
    foldl_hearByte_kept isOpen noFeed (by rw [empty, List.length_nil]; omega), empty,
    List.nil_append, List.foldl_cons, List.foldl_nil,
    hearByte_lineFeed (isOver_withPartialLine isOpen bytes)]
  exact takeLine_withPartialLine turn bytes _

/-- A line that does not fit is refused, whatever it says. -/
theorem hear_long_line (idle : turn.session = {}) (noFeed : lineFeed ∉ bytes)
    (limit : service.lineLimit ≠ 0) (long : service.lineLimit < bytes.length + 1) :
    turn.hear service (bytes ++ [lineFeed]) = turn.refuse (.oversizedLine service.lineLimit) := by
  have isOpen : turn.session.isOver = false := by rw [idle]; rfl
  have empty : turn.session.partialLine = [] := by rw [idle]
  rw [hear, Session.await_of_lineLimit_ne_zero limit, List.foldl_append,
    foldl_hearByte_refused isOpen noFeed (by rw [empty, List.length_nil]; omega)
      (by rw [empty, List.length_nil]; omega),
    foldl_hearByte_of_isOver service [lineFeed] rfl]

end Turn

end AdmissionControl
