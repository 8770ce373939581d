import AdmissionControl.Wire.Reply
import AdmissionControl.Wire.Request

/-!
# Verdicts and completions

What a caller of the daemon learns about one operation, and what it reports at its end. A verdict
says whether the daemon was contacted at all, so that a real admission can be told apart from the
one that is assumed when nobody answers.
-/

namespace AdmissionControl

open Wire

/-- An admission decision as a caller sees it. -/
structure Verdict where
  admitted : Bool
  limit : Option UInt32
  inflight : Option UInt32
  degraded : Bool
  /-- Whether the decision is the daemon's. -/
  contacted : Bool
deriving DecidableEq

namespace Verdict

/-- Admission without metering. -/
def failOpen : Verdict := ⟨true, none, none, false, false⟩

/-- The verdict that a reply carries. -/
def ofReply (reply : AdmitReply) : Verdict :=
  ⟨reply.admitted, reply.limit, reply.inflight, reply.degraded, true⟩

/-- The verdict of a limiter that is asked directly. -/
def ofDecision (decision : Limiter.Decision) : Verdict :=
  ⟨decision.admitted, some decision.state.limit, some decision.state.inflight,
    decision.state.degraded, true⟩

end Verdict

/-- How an admitted operation ended. -/
structure Completion where
  status : UInt16
  latency : Binary64
  /-- Whether the latency should tune the limit. -/
  sampled : Bool
deriving DecidableEq

/-- The request line that reports a completion. -/
def Completion.request (completion : Completion) : Request :=
  .complete completion.latency (some completion.status) completion.sampled

end AdmissionControl
