import AdmissionControl.Wire.Reply
import AdmissionControl.Wire.Request

/-!
# Answering request lines

Every line gets exactly one reply. A line that is no request is answered as unknown and leaves the
limiter alone, even if some of its fields were well formed.
-/

namespace AdmissionControl

open Wire

/-- A reply together with the limiter state it leaves. -/
structure Answer where
  reply : List Char
  state : Limiter

/-- Carries out a request. -/
def Wire.Request.serve (tuning : Limiter.Tuning) (state : Limiter) : Request → Answer
  | .admission _ =>
      let decision := state.acquire
      ⟨Reply.ofDecision decision, decision.state⟩
  | .complete latency _ sampled =>
      ⟨Reply.acknowledgement, state.complete tuning latency sampled⟩
  | .stats => ⟨Reply.ofState state, state⟩

/-- Answers one request line. -/
def answerLine (tuning : Limiter.Tuning) (state : Limiter) (line : List Char) : Answer :=
  match Request.parse line with
  | .ok request => request.serve tuning state
  | .error _ => ⟨Reply.unknown, state⟩

/-- Answers lines one after another. -/
def answerLines (tuning : Limiter.Tuning) (state : Limiter) : List (List Char) → List Answer
  | [] => []
  | line :: rest =>
      let answer := answerLine tuning state line
      answer :: answerLines tuning answer.state rest

end AdmissionControl
