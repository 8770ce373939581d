import AdmissionControl.Binary64.Decimal
import AdmissionControl.Text.Quoted

/-!
# Faults of wire data

Each cause names what was wrong with a line; its wording is `Wire.Fault.message`.
-/

namespace AdmissionControl.Wire

open Text

/-- Why a line, or a whole connection, was refused. -/
inductive Fault where
  /-- A visitor kind other than the two known ones. -/
  | unknownKind (kind : List Char)
  /-- A request whose first token names no command. -/
  | unknownCommand (command : List Char)
  /-- A field whose value does not read as its type. -/
  | malformedField (key : String) (value : List Char)
  /-- A latency that reads as a number but is negative or not finite. -/
  | unusableLatency (latency : Binary64)
  /-- A reply to an admission request that starts with neither verdict. -/
  | unexpectedAdmitReply (status : List Char)
  /-- A state reply without one of its fields. -/
  | missingField (key : String)
  /-- A request line with no end within the limit on its length. -/
  | oversizedLine (limit : Nat)
  /-- A request line that is not valid UTF-8. -/
  | undecodableLine
  /-- A connection offered to a pool after its shutdown. -/
  | poolShutDown
deriving DecidableEq

/-- The wording of a fault. -/
def Fault.message : Fault → String
  | .unknownKind kind => "unknown kind " ++ String.ofList (quote kind)
  | .unknownCommand command => "unknown command " ++ String.ofList (quote command)
  | .malformedField key value => "invalid " ++ key ++ " " ++ String.ofList (quote value)
  | .unusableLatency latency => "invalid rtt_ms " ++ String.ofList latency.write
  | .unexpectedAdmitReply status =>
      "unexpected admit reply " ++ String.ofList (quote status)
  | .missingField key => "stats reply missing " ++ key
  | .oversizedLine limit =>
      "request line exceeds " ++ String.ofList (Numeral.write limit) ++ " bytes"
  | .undecodableLine => "request line is not UTF-8"
  | .poolShutDown => "worker pool is shut down"

end AdmissionControl.Wire
