import AdmissionControl.Client.Verdict
import AdmissionControl.Proofs.Binary64.Whole
import AdmissionControl.Proofs.Text.Spacing
import AdmissionControl.Proofs.Wire.ReplyCodec

/-!
# Round trips of lines

Every request and every reply is one line, and reading it gives back what it was written for. The
reader may be given the line as it was sent, without its terminator, or with a carriage return
before the line feed. Only a latency changes on the way: it arrives as the whole number that it
stands for, and from then on it stays the same.
-/

namespace AdmissionControl

open Text

section Framing

/-- The forms in which the end of a line may arrive: taken off, as it was sent, or with a carriage
return before the line feed. -/
def Text.lineEndings : List (List Char) := [[], ['\n'], ['\r', '\n']]

/-- However its end arrives, a line has the tokens of what stands before it. -/
theorem Text.tokens_append_lineEnding (text : List Char) {ending : List Char}
    (isEnding : ending ∈ lineEndings) : tokens (text ++ ending) = tokens text := by
  refine tokens_append_blanks text fun character member => ?_
  have isTerminator : character = '\n' ∨ character = '\r' := by
    simp only [lineEndings, List.mem_cons, List.not_mem_nil, or_false] at isEnding
    rcases isEnding with rfl | rfl | rfl
    · cases member
    · exact .inl (List.mem_singleton.mp member)
    · simpa [or_comm] using member
  rcases isTerminator with rfl | rfl <;> rfl

/-- Of a line only the end is a line feed, and its tokens do not depend on how that end arrives. -/
theorem Text.IsLine.exists_body {text : List Char} (isLine : IsLine text) :
    ∃ body : List Char, text = body ++ ['\n'] ∧ '\n' ∉ body
      ∧ ∀ ending ∈ lineEndings, tokens (body ++ ending) = tokens text := by
  obtain ⟨body, rfl, characters⟩ := isLine
  refine ⟨body, rfl, fun member => ?_, fun ending isEnding => ?_⟩
  · rcases characters '\n' member with visible | blank
    · exact absurd visible (by decide)
    · exact absurd blank (by decide)
  · rw [tokens_append_lineEnding body isEnding, tokens_append_lineEnding body (by decide)]

/-- A line has one byte for each character. -/
theorem Text.IsLine.length_encode {text : List Char} (isLine : IsLine text) :
    (Text.encode text).length = text.length := by
  obtain ⟨bytes, eq, _, length⟩ := isLine.exists_bytes
  rw [eq, List.length_append, List.length_singleton, length]

end Framing

namespace Wire

/-- Readers look at tokens alone. -/
theorem Request.parse_of_tokens_eq {left right : List Char} (same : tokens left = tokens right) :
    Request.parse left = Request.parse right := by
  rw [Request.parse, Request.parse, same]

theorem AdmitReply.parse_of_tokens_eq {left right : List Char}
    (same : tokens left = tokens right) : AdmitReply.parse left = AdmitReply.parse right := by
  rw [AdmitReply.parse, AdmitReply.parse, same]

theorem Reply.readState_of_tokens_eq {left right : List Char}
    (same : tokens left = tokens right) : Reply.readState left = Reply.readState right := by
  rw [Reply.readState, Reply.readState, same]

section Requests

/-- The request with its latency replaced by the whole number that it stands for. -/
def Request.carried : Request → Request
  | .complete latency status sampled => .complete latency.carried status sampled
  | request => request

theorem Request.received_eq_carried (request : Request) : request.received = request.carried := by
  cases request with
  | admission visitor => rfl
  | stats => rfl
  | complete latency status sampled =>
      rw [received, carried, Binary64.ofNat_roundWithin]

/-- A request without a latency, or with one that is a whole number from zero to `2 ^ 64`. -/
def Request.IsWhole : Request → Prop
  | .complete latency _ _ => latency.IsWhole
  | _ => True

/-- Equality of requests where latencies count as numbers, so that a zero has no sign. -/
def Request.Agrees : Request → Request → Prop
  | .complete left leftStatus leftSampled, .complete right rightStatus rightSampled =>
      left.rank = right.rank ∧ leftStatus = rightStatus ∧ leftSampled = rightSampled
  | left, right => left = right

theorem Request.IsWhole.agrees_carried {request : Request} (isWhole : request.IsWhole) :
    request.carried.Agrees request := by
  cases request with
  | admission visitor => exact rfl
  | stats => exact rfl
  | complete latency status sampled => exact ⟨Binary64.IsWhole.rank_carried isWhole, rfl, rfl⟩

/-- Only a zero with a minus sign is a whole number and still changes on the wire. -/
theorem Request.carried_eq_iff (request : Request) :
    request.carried = request ↔ request.IsWhole
      ∧ ∀ status sampled, request ≠ .complete (.finite true .zero) status sampled := by
  cases request with
  | admission visitor => exact iff_of_true rfl ⟨trivial, nofun⟩
  | stats => exact iff_of_true rfl ⟨trivial, nofun⟩
  | complete latency status sampled =>
      have ofLatency : latency ≠ .finite true .zero ↔
          ∀ otherStatus otherSampled, complete latency status sampled
            ≠ .complete (.finite true .zero) otherStatus otherSampled := by
        constructor
        · rintro signed otherStatus otherSampled same
          exact signed (complete.inj same).1
        · rintro differs rfl
          exact differs status sampled rfl
      rw [carried, ← ofLatency, IsWhole, ← Binary64.carried_eq_iff]
      simp only [complete.injEq, and_self, and_true]

/-- Latencies that are written with one number are written on the same line. -/
theorem Request.encode_complete_eq {left right : Binary64}
    (same : left.roundWithin greatestLatency = right.roundWithin greatestLatency)
    (status : Option UInt16) (sampled : Bool) :
    (complete left status sampled).encode = (complete right status sampled).encode := by
  unfold encode
  dsimp only
  rw [same]

/-- Writing what was read gives the same line again. -/
theorem Request.encode_carried (request : Request) : request.carried.encode = request.encode := by
  cases request with
  | admission visitor => rfl
  | stats => rfl
  | complete latency status sampled =>
      exact encode_complete_eq latency.roundWithin_carried status sampled

/-- Every request is one line of at most 59 bytes, and reading that line, with or without its
terminator, gives the request back with its latency rounded to a whole number. A latency that is
such a number arrives as the same number, and but for the sign of a zero nothing else crosses the
wire unchanged. What was read is written as the same line again. -/
theorem Request.encode_round_trip (request : Request) :
    (Text.encode request.encode).length ≤ 59
      ∧ (∃ body : List Char, request.encode = body ++ ['\n'] ∧ '\n' ∉ body
          ∧ ∀ ending ∈ lineEndings, parse (body ++ ending) = .ok request.carried)
      ∧ (request.IsWhole → request.carried.Agrees request)
      ∧ (request.carried = request ↔ request.IsWhole
          ∧ ∀ status sampled, request ≠ .complete (.finite true .zero) status sampled)
      ∧ request.carried.encode = request.encode := by
  have isLine := request.isLine_encode
  have bounded : (Text.encode request.encode).length ≤ longestLine := by
    rw [isLine.length_encode]
    exact request.length_encode_le
  obtain ⟨body, eq, absent, sameTokens⟩ := isLine.exists_body
  refine ⟨bounded, ⟨body, eq, absent, fun ending isEnding => ?_⟩, IsWhole.agrees_carried,
    request.carried_eq_iff, request.encode_carried⟩
  rw [parse_of_tokens_eq (sameTokens ending isEnding), request.parse_encode, received_eq_carried]

/-- A latency of a half is rounded up, and the line says so from then on. -/
example :
    (Request.complete (.ofRatio false Binary64.unitsPerOne 2) none true).encode
      = "COMPLETE rtt_ms=1\n".toList := by
  decide +kernel

end Requests

section Replies

/-- No state line begins with a verdict, since its first token is a field. -/
theorem AdmitReply.parse_ofState (state : Limiter) :
    ∃ status : List Char, AdmitReply.parse (Reply.ofState state)
      = .error (.unexpectedAdmitReply status) := by
  refine ⟨writeField ("limit".toList, Numeral.write state.limit.toNat), ?_⟩
  have begins : (tokens (Reply.ofState state)).headD []
      = writeField ("limit".toList, Numeral.write state.limit.toNat) := by
    rw [Reply.tokens_ofState]
    rfl
  unfold parse
  simp only [begins]
  rfl

/-- A line without a field for the limit is no state line. -/
theorem Reply.readState_of_fields_nil {line : List Char}
    (noFields : Fields.ofTokens (tokens line) = []) :
    readState line = .error (.missingField "limit") := by
  rw [readState, noFields]
  rfl

/-- Every reply is one line, and whether that line arrives with its terminator, without it or with
a carriage return before the line feed, the client that waits for it reads back what was written:
of an admission the verdict, the flag and both numbers, told by the daemon, and of a state request
the state. A client that waits for an admission refuses state lines and the line for what was not
understood, and a client that waits for a state refuses that line and the bare receipt. -/
theorem Reply.round_trip :
    (∀ decision : Limiter.Decision, ∃ body : List Char,
      ofDecision decision = body ++ ['\n'] ∧ '\n' ∉ body
        ∧ ∀ ending ∈ lineEndings, ∃ reply : AdmitReply,
            AdmitReply.parse (body ++ ending) = .ok reply
              ∧ reply.admitted = decision.admitted
              ∧ reply.degraded = decision.state.degraded
              ∧ reply.limit = some decision.state.limit
              ∧ reply.inflight = some decision.state.inflight
              ∧ (Verdict.ofReply reply).contacted = true
              ∧ Verdict.ofReply reply = Verdict.ofDecision decision)
      ∧ (∀ state : Limiter, ∃ body : List Char,
          ofState state = body ++ ['\n'] ∧ '\n' ∉ body
            ∧ ∀ ending ∈ lineEndings,
                readState (body ++ ending) = .ok state
                  ∧ ∃ status, AdmitReply.parse (body ++ ending)
                      = .error (.unexpectedAdmitReply status))
      ∧ (∀ ending ∈ lineEndings,
          AdmitReply.parse ("ERR unknown".toList ++ ending)
              = .error (.unexpectedAdmitReply "ERR".toList)
            ∧ readState ("ERR unknown".toList ++ ending) = .error (.missingField "limit")
            ∧ readState ("OK".toList ++ ending) = .error (.missingField "limit")) := by
  refine ⟨fun decision => ?_, fun state => ?_, fun ending isEnding => ⟨?_, ?_, ?_⟩⟩
  · obtain ⟨body, eq, absent, sameTokens⟩ := (isLine_ofDecision decision).exists_body
    refine ⟨body, eq, absent, fun ending isEnding => ?_⟩
    have parsed := AdmitReply.parse_ofDecision decision
    rw [← AdmitReply.parse_of_tokens_eq (sameTokens ending isEnding)] at parsed
    exact ⟨_, parsed, rfl, rfl, rfl, rfl, rfl, rfl⟩
  · obtain ⟨body, eq, absent, sameTokens⟩ := (isLine_ofState state).exists_body
    refine ⟨body, eq, absent, fun ending isEnding => ⟨?_, ?_⟩⟩
    · have trimmed : tokens (trimEnd (ofState state)) = tokens (ofState state) :=
        tokens_dropEndWhile (fun _ blank => blank) _
      rw [readState_of_tokens_eq ((sameTokens ending isEnding).trans trimmed.symm),
        readState_ofState]
    · rw [AdmitReply.parse_of_tokens_eq (sameTokens ending isEnding)]
      exact AdmitReply.parse_ofState state
  · rw [AdmitReply.parse_of_tokens_eq (tokens_append_lineEnding _ isEnding)]
    rfl
  · rw [readState_of_tokens_eq (tokens_append_lineEnding _ isEnding)]
    exact readState_of_fields_nil (by decide)
  · rw [readState_of_tokens_eq (tokens_append_lineEnding _ isEnding)]
    exact readState_of_fields_nil (by decide)

end Replies

end Wire

end AdmissionControl
