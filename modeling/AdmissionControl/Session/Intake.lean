import AdmissionControl.Session.Basic
import AdmissionControl.Text.Blank

/-!
# Reading from pieces

What a peer sends arrives in pieces, whose ends need not be the ends of lines. A daemon reads line
by line: it looks for a line feed in the piece at hand, no further than the line may still reach,
takes the piece up to there, and leaves the rest for the next line. A shutdown interrupts the read
of a line; it is then taken up again with the room that the line has left.
-/

namespace AdmissionControl

open Wire

/-- A session with the read of a line under way. What has come of the line is the session's partial
line. -/
structure Intake where
  turn : Turn
  /-- How many more bytes the line may have. -/
  room : Nat
  /-- How many bytes this read has taken. -/
  taken : Nat := 0

namespace Intake

/-- Begins to read a line. -/
def begin (service : Service) (turn : Turn) : Intake := { turn, room := service.lineLimit }

/-- What has come of the line. -/
def line (intake : Intake) : List UInt8 := intake.turn.session.partialLine

/-- Adds bytes to the line. -/
def add (intake : Intake) (bytes : List UInt8) : Intake where
  turn :=
    { intake.turn with
      session := { intake.turn.session with partialLine := intake.line ++ bytes } }
  room := intake.room - bytes.length
  taken := intake.taken + bytes.length

/-- Ends a read that can take no more. It has a whole line, or a line that has no room left, or else
the peer has finished sending. -/
def conclude (service : Service) (intake : Intake) : Intake :=
  if intake.taken = 0 then
    { intake with turn := { intake.turn with session := intake.turn.session.hearEnd } }
  else if intake.line.getLast? = some Turn.lineFeed then
    begin service (intake.turn.takeLine service intake.line)
  else if service.lineLimit ≤ intake.line.length then
    { intake with turn := intake.turn.refuse (.oversizedLine service.lineLimit) }
  else
    { intake with turn := { intake.turn with session := intake.turn.session.hearEnd } }

/-- Takes a piece of what the peer sends, line by line. A read without room ends before it looks at
the piece. -/
def hearPiece (service : Service) (intake : Intake) (piece : List UInt8) : Intake :=
  if intake.turn.session.isOver then intake
  else if intake.room = 0 then intake.conclude service
  else if _empty : piece = [] then intake
  else
    match Text.cut? Turn.lineFeed (piece.take intake.room) with
    | some (front, _) =>
        ((intake.add (front ++ [Turn.lineFeed])).conclude service).hearPiece service
          (piece.drop (front.length + 1))
    | none =>
        (intake.add (piece.take intake.room)).hearPiece service (piece.drop intake.room)
termination_by piece.length
decreasing_by
  all_goals
    have := List.length_pos_iff.mpr _empty
    rw [List.length_drop]
    omega

/-- Hears that the peer has finished sending. -/
def hearEnd (service : Service) (intake : Intake) : Intake :=
  if intake.turn.session.isOver then intake else intake.conclude service

/-- The daemon begins to shut down, of which the read at hand does not know yet. -/
def signal (intake : Intake) : Intake :=
  { intake with turn := { intake.turn with session := intake.turn.session.signal } }

/-- Hears of a shutdown. Between lines the session ends. Inside a line the read is given up and
taken up again: what it takes from then on is counted anew, but its room is what is left. -/
def heed (intake : Intake) : Intake :=
  { intake with turn := { intake.turn with session := intake.turn.session.heed }, taken := 0 }

/-- Hears of a shutdown as soon as it begins. -/
def stop (intake : Intake) : Intake := intake.signal.heed

end Intake

end AdmissionControl
