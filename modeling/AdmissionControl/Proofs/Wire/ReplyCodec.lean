import AdmissionControl.Answer
import AdmissionControl.Proofs.Wire.RequestCodec

/-!
# Replies on the wire

Every reply is one line. The answer to an admission request reads back as the decision that it was
written for, and the answer to a state request as the state, with nothing left out.
-/

namespace AdmissionControl.Wire

open Text

/-- The word for a verdict. -/
def Reply.writeVerdict (admitted : Bool) : List Char :=
  if admitted then "OK".toList else "REJECT".toList

/-- The fields of a limiter state. -/
def Reply.fieldsOf (state : Limiter) : Fields :=
  [("limit".toList, Numeral.write state.limit.toNat),
    ("inflight".toList, Numeral.write state.inflight.toNat),
    ("degraded".toList, writeFlag state.degraded)]

theorem Reply.ofDecision_eq_writeLine (decision : Limiter.Decision) :
    ofDecision decision
      = writeLine (writeVerdict decision.admitted) (fieldsOf decision.state) := by
  unfold ofDecision writeLine writeVerdict fieldsOf stateFields
  generalize Numeral.write decision.state.limit.toNat = limit
  generalize Numeral.write decision.state.inflight.toNat = inflight
  generalize writeFlag decision.state.degraded = degraded
  cases decision.admitted <;> simp [writeField]

theorem Reply.isWord_writeVerdict (admitted : Bool) : IsWord (writeVerdict admitted) := by
  cases admitted <;> exact .of_all rfl

theorem Reply.isField_fieldsOf (state : Limiter) : ∀ field ∈ fieldsOf state, IsField field := by
  simp only [fieldsOf, List.forall_mem_cons]
  refine ⟨?_, ?_, ?_, List.forall_mem_nil _⟩
  · exact isField_of_word (.of_all rfl) rfl (Numeral.isWord_write _)
  · exact isField_of_word (.of_all rfl) rfl (Numeral.isWord_write _)
  · exact isField_of_word (.of_all rfl) rfl (isWord_writeFlag _)

theorem AdmitReply.readVerdict_writeVerdict (admitted : Bool) :
    readVerdict (Reply.writeVerdict admitted) = .ok admitted := by
  cases admitted <;> rfl

/-- Blanks at the end of a reply make no difference. -/
theorem AdmitReply.parse_dropEndWhile {drop : Char → Bool}
    (blank : ∀ character, drop character = true → isBlank character = true) (line : List Char) :
    parse (dropEndWhile drop line) = parse line := by
  unfold parse
  rw [tokens_dropEndWhile blank]

/-- The answer to an admission request reads back as its decision. -/
theorem AdmitReply.parse_ofDecision (decision : Limiter.Decision) :
    parse (Reply.ofDecision decision)
      = .ok ⟨decision.admitted, some decision.state.limit, some decision.state.inflight,
          decision.state.degraded⟩ := by
  have areFields := Reply.isField_fieldsOf decision.state
  have ofLimit : (Reply.fieldsOf decision.state).read? "limit" readUInt32?
      = .ok (some decision.state.limit) := by
    have given : (Reply.fieldsOf decision.state).get? "limit"
        = some (Numeral.write decision.state.limit.toNat) := rfl
    simp only [Fields.read?, given, readUInt32?_write]
  have ofInflight : (Reply.fieldsOf decision.state).read? "inflight" readUInt32?
      = .ok (some decision.state.inflight) := by
    have given : (Reply.fieldsOf decision.state).get? "inflight"
        = some (Numeral.write decision.state.inflight.toNat) := rfl
    simp only [Fields.read?, given, readUInt32?_write]
  have ofDegraded : (Reply.fieldsOf decision.state).read? "degraded" readFlag?
      = .ok (some decision.state.degraded) := by
    have given : (Reply.fieldsOf decision.state).get? "degraded"
        = some (writeFlag decision.state.degraded) := rfl
    simp only [Fields.read?, given, readFlag?_writeFlag]
  unfold parse
  rw [Reply.ofDecision_eq_writeLine,
    tokens_writeLine (Reply.isWord_writeVerdict _) areFields]
  simp only [List.headD_cons, List.tail_cons, Fields.ofTokens_map_writeField areFields,
    readVerdict_writeVerdict, ofLimit, ofInflight, ofDegraded]
  rfl

theorem Reply.isLine_ofDecision (decision : Limiter.Decision) : IsLine (ofDecision decision) := by
  rw [ofDecision_eq_writeLine]
  exact isLine_writeLine (isWord_writeVerdict _) (isField_fieldsOf _)

/-- The answer to a state request begins with its first field. -/
theorem Reply.ofState_eq_writeLine (state : Limiter) :
    ofState state
      = writeLine (writeField ("limit".toList, Numeral.write state.limit.toNat))
          (fieldsOf state).tail := by
  unfold ofState writeLine fieldsOf stateFields
  generalize Numeral.write state.limit.toNat = limit
  generalize Numeral.write state.inflight.toNat = inflight
  generalize writeFlag state.degraded = degraded
  simp [writeField]

theorem Reply.tokens_ofState (state : Limiter) :
    tokens (ofState state) = (fieldsOf state).map writeField := by
  have areFields := isField_fieldsOf state
  rw [ofState_eq_writeLine, tokens_writeLine (areFields _ List.mem_cons_self).isWord
    fun field member => areFields field (List.mem_of_mem_tail member)]
  rfl

/-- The answer to a state request reads back as the state. -/
theorem Reply.readState_ofState (state : Limiter) :
    readState (trimEnd (ofState state)) = .ok state := by
  have areFields := isField_fieldsOf state
  have ofLimit : (fieldsOf state).require "limit" readUInt32? = .ok state.limit := by
    have given : (fieldsOf state).get? "limit" = some (Numeral.write state.limit.toNat) := rfl
    simp only [Fields.require, Fields.read?, given, readUInt32?_write]
  have ofInflight : (fieldsOf state).require "inflight" readUInt32? = .ok state.inflight := by
    have given : (fieldsOf state).get? "inflight" = some (Numeral.write state.inflight.toNat) := rfl
    simp only [Fields.require, Fields.read?, given, readUInt32?_write]
  have ofDegraded : (fieldsOf state).require "degraded" readFlag? = .ok state.degraded := by
    have given : (fieldsOf state).get? "degraded" = some (writeFlag state.degraded) := rfl
    simp only [Fields.require, Fields.read?, given, readFlag?_writeFlag]
  unfold readState
  rw [trimEnd, tokens_dropEndWhile fun _ blank => blank, tokens_ofState,
    Fields.ofTokens_map_writeField areFields]
  simp only [ofLimit, ofInflight, ofDegraded]
  rfl

theorem Reply.isLine_ofState (state : Limiter) : IsLine (ofState state) := by
  have areFields := isField_fieldsOf state
  rw [ofState_eq_writeLine]
  exact isLine_writeLine (areFields _ List.mem_cons_self).isWord
    fun field member => areFields field (List.mem_of_mem_tail member)

/-- A completion is acknowledged by one line. -/
theorem Reply.isLine_acknowledgement : IsLine acknowledgement := by
  have line : IsLine (writeLine "OK".toList []) :=
    isLine_writeLine (.of_all rfl) (List.forall_mem_nil _)
  exact line

end AdmissionControl.Wire
