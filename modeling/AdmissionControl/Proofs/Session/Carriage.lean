import AdmissionControl.Proofs.Limiter.Steps
import AdmissionControl.Proofs.Session.Framing

/-!
# Requests a session can carry

A session carries a request out when its line fits, and otherwise refuses the line and ends. The
least limit that settings may have is the length of an admission request, so every session carries
those; a completion is longer and needs a higher limit.
-/

namespace AdmissionControl

open Wire

/-- What is left of an encoded request after its terminator is dropped is read as the request. -/
theorem answerLine_encode (tuning : Limiter.Tuning) (limiter : Limiter) (request : Request) :
    answerLine tuning limiter (Text.dropEndWhile Turn.isTerminator request.encode)
      = request.received.serve tuning limiter := by
  have blank (character : Char) (terminator : Turn.isTerminator character = true) :
      Text.isBlank character = true := by
    simp only [Turn.isTerminator, Bool.or_eq_true, decide_eq_true_eq] at terminator
    rcases terminator with rfl | rfl <;> rfl
  rw [answerLine, Request.parse_dropEndWhile blank, Request.parse_encode]

theorem Wire.Reply.head?_ofDecision (decision : Limiter.Decision) :
    (Reply.ofDecision decision).head? = if decision.admitted then some 'O' else some 'R' := by
  unfold Reply.ofDecision
  cases decision.admitted <;> rfl

/-- No request is answered as a line that was not understood. -/
theorem Wire.Request.serve_reply_ne_unknown (tuning : Limiter.Tuning) (limiter : Limiter)
    (request : Request) : (request.serve tuning limiter).reply ≠ Reply.unknown := by
  intro eq
  have head : (request.serve tuning limiter).reply.head? = some 'E' := by
    rw [eq]
    rfl
  cases request with
  | admission visitor =>
      have verdict := Reply.head?_ofDecision limiter.acquire
      rw [show (Reply.ofDecision limiter.acquire).head? = some 'E' from head] at verdict
      split at verdict <;> simp at verdict
  | complete latency status sampled =>
      have different : some 'O' ≠ some 'E' := by decide
      exact different head
  | stats =>
      have different : some 'l' ≠ some 'E' := by decide
      exact different head

namespace Turn

/-- The request is carried out: its line is answered as the request, and the session goes on. -/
def CarriesOut (service : Service) (turn : Turn) (request : Request) : Prop :=
  let answer := request.received.serve service.tuning turn.limiter
  answer.reply ≠ Reply.unknown
    ∧ turn.hear service (Text.encode request.encode)
      = { session := {}
          limiter := answer.state
          exchanges := turn.exchanges
            ++ [.answered (Text.dropEndWhile isTerminator request.encode) answer.reply] }

variable {service : Service} {turn : Turn} {request : Request}

/-- Between lines, a request that fits is carried out. -/
theorem carriesOut_of_fits (idle : turn.session = {})
    (fits : request.encode.length ≤ service.lineLimit) : turn.CarriesOut service request := by
  refine ⟨request.received.serve_reply_ne_unknown _ _, ?_⟩
  obtain ⟨bytes, eq, noFeed, lengthEq⟩ := request.isLine_encode.exists_bytes
  have taken : turn.hear service (Text.encode request.encode)
      = turn.takeLine service (Text.encode request.encode) := by
    rw [eq]
    exact hear_line idle noFeed (by omega)
  rw [taken, takeLine, Text.decode?_encode]
  dsimp only
  rw [answerWith, answerLine_encode, idle]
  rfl

/-- Between lines, a request that does not fit is refused and ends the session. -/
theorem hear_of_not_fits (idle : turn.session = {}) (limit : service.lineLimit ≠ 0)
    (long : service.lineLimit < request.encode.length) :
    turn.hear service (Text.encode request.encode)
      = turn.refuse (.oversizedLine service.lineLimit) := by
  obtain ⟨bytes, eq, noFeed, lengthEq⟩ := request.isLine_encode.exists_bytes
  rw [eq]
  exact hear_long_line idle noFeed limit (by omega)

/-- A session carries out exactly the requests that fit. -/
theorem carriesOut_iff (idle : turn.session = {}) (limit : service.lineLimit ≠ 0) :
    turn.CarriesOut service request ↔ request.encode.length ≤ service.lineLimit := by
  refine ⟨fun carried => ?_, carriesOut_of_fits idle⟩
  by_contra long
  have refused := hear_of_not_fits idle limit (Nat.not_le.mp long)
  have ending := congrArg (·.session.ending) (carried.2.symm.trans refused)
  cases ending

end Turn

namespace Settings

/-- What acceptable settings meet. -/
theorem validate_eq_ok_iff (settings : Settings) :
    settings.validate = .ok () ↔
      settings.workers ≠ 0
        ∧ settings.workers ≤ greatestWorkers
        ∧ settings.targetMilliseconds ≠ 0
        ∧ settings.socketPath.isEmpty = false
        ∧ settings.step ≠ 0
        ∧ isDecrease settings.decrease = true
        ∧ leastLineLimit ≤ settings.lineLimit := by
  simp only [← UInt64.not_lt]
  unfold validate
  repeat' split
  all_goals simp_all

theorem toNat_lineLimit_of_validate {settings : Settings} (accepted : settings.validate = .ok ()) :
    16 ≤ settings.lineLimit.toNat := by
  obtain ⟨_, _, _, _, _, _, least⟩ := settings.validate_eq_ok_iff.mp accepted
  exact UInt64.le_iff_toNat_le.mp least

/-- What a session between lines makes of each request under acceptable settings. It carries a
request out exactly when the line fits, and refuses it otherwise, with the limiter left alone.
Admission and state requests always fit. A completion gives its slot back if it fits, and all of
them fit exactly when the limit is at least the length of the longest line. -/
theorem carriesOut_iff_of_validate (settings : Settings) (accepted : settings.validate = .ok ())
    (turn : Turn) (idle : turn.session = {}) :
    (∀ request : Request,
        turn.CarriesOut settings.service request ↔
          request.encode.length ≤ settings.lineLimit.toNat)
      ∧ (∀ request : Request, ¬ turn.CarriesOut settings.service request →
          turn.hear settings.service (Text.encode request.encode)
            = { session := { ending := some (.refused (.oversizedLine settings.lineLimit.toNat)) }
                limiter := turn.limiter
                exchanges := turn.exchanges
                  ++ [.refused (.oversizedLine settings.lineLimit.toNat)] })
      ∧ (∀ visitor : Visitor, turn.CarriesOut settings.service (.admission visitor))
      ∧ turn.CarriesOut settings.service .stats
      ∧ (∀ latency status sampled,
          let request : Request := .complete latency status sampled
          (turn.hear settings.service (Text.encode request.encode)).limiter.inflight
            = if request.encode.length ≤ settings.lineLimit.toNat then turn.limiter.release.inflight
              else turn.limiter.inflight)
      ∧ ((∀ latency status sampled,
            turn.CarriesOut settings.service (.complete latency (some status) sampled)) ↔
          Request.longestLine ≤ settings.lineLimit.toNat) := by
  have least := toNat_lineLimit_of_validate accepted
  have limit : settings.service.lineLimit ≠ 0 := by
    change settings.lineLimit.toNat ≠ 0
    omega
  have carriesOutIff (request : Request) : turn.CarriesOut settings.service request ↔
      request.encode.length ≤ settings.lineLimit.toNat := Turn.carriesOut_iff idle limit
  have refused (request : Request) (long : settings.lineLimit.toNat < request.encode.length) :
      turn.hear settings.service (Text.encode request.encode)
        = turn.refuse (.oversizedLine settings.lineLimit.toNat) :=
    Turn.hear_of_not_fits idle limit long
  refine ⟨carriesOutIff, ?_, ?_, ?_, ?_, ?_⟩
  · intro request notCarried
    rw [carriesOutIff, Nat.not_le] at notCarried
    rw [refused request notCarried, Turn.refuse, idle]
    rfl
  · intro visitor
    rw [carriesOutIff]
    exact Nat.le_trans (by cases visitor <;> decide) least
  · rw [carriesOutIff]
    exact Nat.le_trans (by decide) least
  · intro latency status sampled request
    split
    · next fits =>
      rw [((carriesOutIff request).mpr fits).2]
      exact Limiter.complete_inflight settings.tuning turn.limiter _ sampled
    · next long =>
      rw [refused request (Nat.not_le.mp long)]
      rfl
  · simp only [carriesOutIff]
    constructor
    · intro fits
      exact Request.length_encode_longest ▸ fits (.infinite false) 65535 false
    · intro enough latency status sampled
      exact Nat.le_trans (Request.length_encode_le _) enough

/-- The usual settings carry every completion. -/
theorem carriesOut_iff_of_validate_usual :
    let settings : Settings := {}
    let turn : Turn := { session := {}, limiter := ⟨4, 1, false⟩ }
    settings.validate = .ok ()
      ∧ turn.session = {}
      ∧ ∀ latency status sampled,
          turn.CarriesOut settings.service (.complete latency (some status) sampled) :=
  ⟨by decide +kernel, rfl,
    (carriesOut_iff_of_validate {} (by decide +kernel) _ rfl).2.2.2.2.2.mpr (by decide)⟩

/-- Under the least acceptable limit a completion that the client sends is refused, and its slot
stays taken. -/
theorem hear_completion_of_leastLineLimit :
    let settings : Settings := { lineLimit := 16 }
    let turn : Turn := { session := {}, limiter := ⟨4, 1, false⟩ }
    let request : Request := .complete (.ofNat 5) (some 200) true
    settings.validate = .ok ()
      ∧ request.encode = "COMPLETE rtt_ms=5 status=200\n".toList
      ∧ ¬ turn.CarriesOut settings.service request
      ∧ turn.hear settings.service (Text.encode request.encode)
        = { session := { ending := some (.refused (.oversizedLine 16)) }
            limiter := ⟨4, 1, false⟩
            exchanges := [.refused (.oversizedLine 16)] } := by
  intro settings turn request
  have heard : turn.hear settings.service (Text.encode request.encode)
      = { session := { ending := some (.refused (.oversizedLine 16)) }
          limiter := ⟨4, 1, false⟩
          exchanges := [.refused (.oversizedLine 16)] } := by decide +kernel
  refine ⟨by decide +kernel, by decide +kernel, ?_, heard⟩
  rintro ⟨_, carried⟩
  have ending := congrArg (·.session.ending) (carried.symm.trans heard)
  cases ending

end Settings

end AdmissionControl
