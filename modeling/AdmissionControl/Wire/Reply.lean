import AdmissionControl.Limiter.Basic
import AdmissionControl.Wire.Fields

/-!
# Reply lines

An admission is answered by a verdict and the state it leaves, a state request by the state alone,
a completion by an acknowledgement, and anything else by a line that says it was not understood.
-/

namespace AdmissionControl.Wire

open Text

namespace Reply

/-- The answer to a line that cannot be interpreted. -/
def unknown : List Char := "ERR unknown\n".toList

/-- The answer to a completion. -/
def acknowledgement : List Char := "OK\n".toList

/-- The fields of a limiter state. -/
def stateFields (state : Limiter) : List Char :=
  "limit=".toList ++ Numeral.write state.limit.toNat
    ++ " inflight=".toList ++ Numeral.write state.inflight.toNat
    ++ " degraded=".toList ++ writeFlag state.degraded

/-- The answer to an admission request. -/
def ofDecision (decision : Limiter.Decision) : List Char :=
  (if decision.admitted then "OK".toList else "REJECT".toList) ++ ' ' ::
    stateFields decision.state ++ ['\n']

/-- The answer to a state request. -/
def ofState (state : Limiter) : List Char := stateFields state ++ ['\n']

end Reply

/-- An answer to an admission request as a client reads it. -/
structure AdmitReply where
  admitted : Bool
  limit : Option UInt32
  inflight : Option UInt32
  degraded : Bool
deriving DecidableEq

/-- Reads the verdict of an answer to an admission request. -/
def AdmitReply.readVerdict (status : List Char) : Except Fault Bool :=
  if status = "OK".toList then .ok true
  else if status = "REJECT".toList then .ok false
  else .error (.unexpectedAdmitReply status)

/-- Reads an answer to an admission request. Fields that it leaves out stay unknown. -/
def AdmitReply.parse (line : List Char) : Except Fault AdmitReply := do
  let words := tokens line
  let admitted ← AdmitReply.readVerdict (words.headD [])
  let fields := Fields.ofTokens words.tail
  let limit ← fields.read? "limit" readUInt32?
  let inflight ← fields.read? "inflight" readUInt32?
  let degraded ← fields.read? "degraded" readFlag?
  pure ⟨admitted, limit, inflight, degraded.getD false⟩

/-- Reads an answer to a state request. All three fields are wanted. -/
def Reply.readState (line : List Char) : Except Fault Limiter := do
  let fields := Fields.ofTokens (tokens line)
  let limit ← fields.require "limit" readUInt32?
  let inflight ← fields.require "inflight" readUInt32?
  let degraded ← fields.require "degraded" readFlag?
  pure ⟨limit, inflight, degraded⟩

end AdmissionControl.Wire
