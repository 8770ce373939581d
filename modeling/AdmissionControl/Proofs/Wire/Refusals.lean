import AdmissionControl.Proofs.Wire.Relevance

/-!
# Which lines are refused

A line is refused for its command word, or for one value: the first one of a key that its command is
read for. Whatever the other fields say, one value that does not read as its key wants it is enough,
and nothing else is.
-/

namespace AdmissionControl.Wire

open Text

/-- Whether a value reads as its key wants it: a kind of visitor, a finite latency that is not
negative, a 16-bit status, or a flag. -/
def isWellFormed (key : String) (value : List Char) : Bool :=
  if key = "kind" then value = "anon".toList || value = "user".toList
  else if key = "rtt_ms" then
    (Binary64.read? value).any fun latency => latency.isFinite && !latency.lessThan .zero
  else if key = "status" then (readUInt16? value).isSome
  else if key = "sample" then value = ['0'] || value = ['1']
  else true

/-- The fields give this key a value that does not read. -/
def Fields.Spoils (fields : Fields) (key : String) : Prop :=
  ∃ value, fields.get? key = some value ∧ isWellFormed key value = false

section Reading

variable {fields : Fields}

/-- A field that is read as it stands is refused exactly for a value that does not read. -/
theorem Fields.read?_eq_error_iff {key : String} {α : Type} {read : List Char → Option α}
    (wants : ∀ value, isWellFormed key value = (read value).isSome) :
    (∃ fault, fields.read? key read = .error fault) ↔ fields.Spoils key := by
  unfold Fields.Spoils Fields.read?
  cases fields.get? key with
  | none => simp
  | some value => cases unread : read value <;> simp [wants, unread]

theorem Fields.read?_status_eq_error_iff :
    (∃ fault, fields.read? "status" readUInt16? = .error fault) ↔ fields.Spoils "status" :=
  Fields.read?_eq_error_iff fun _ => rfl

theorem Fields.read?_sample_eq_error_iff :
    (∃ fault, fields.read? "sample" readFlag? = .error fault) ↔ fields.Spoils "sample" := by
  refine Fields.read?_eq_error_iff fun value => ?_
  change (decide (value = ['0']) || decide (value = ['1'])) = (readFlag? value).isSome
  unfold readFlag?
  split
  · simp_all
  · split <;> simp_all

theorem Request.readAdmit_eq_error_iff :
    (∃ fault, readAdmit fields = .error fault) ↔ fields.Spoils "kind" := by
  unfold Fields.Spoils readAdmit
  cases fields.get? "kind" with
  | none => simp
  | some value =>
      have wants : isWellFormed "kind" value
          = (decide (value = "anon".toList) || decide (value = "user".toList)) := rfl
      simp only [Option.some.injEq, exists_eq_left', wants, Visitor.read]
      split
      · simp_all [Except.map]
      · split <;> simp_all [Except.map]

theorem Request.readLatency_eq_error_iff :
    (∃ fault, readLatency fields = .error fault) ↔ fields.Spoils "rtt_ms" := by
  unfold Fields.Spoils readLatency Fields.read?
  cases fields.get? "rtt_ms" with
  | none =>
      have usable : (Binary64.zero.isFinite && !Binary64.zero.lessThan .zero) = true := by decide
      simp [usable]
  | some value =>
      have wants : isWellFormed "rtt_ms" value
          = (Binary64.read? value).any fun latency => latency.isFinite && !latency.lessThan .zero :=
        rfl
      simp only [Option.some.injEq, exists_eq_left', wants]
      cases Binary64.read? value with
      | none => simp
      | some latency =>
          simp only [Option.any_some, Option.getD_some]
          split <;> simp_all

/-- A completion is refused exactly for one of its three values. -/
theorem Request.readComplete_eq_error_iff :
    (∃ fault, readComplete fields = .error fault)
      ↔ fields.Spoils "rtt_ms" ∨ fields.Spoils "status" ∨ fields.Spoils "sample" := by
  rw [← Request.readLatency_eq_error_iff, ← Fields.read?_status_eq_error_iff,
    ← Fields.read?_sample_eq_error_iff]
  unfold readComplete
  cases readLatency fields with
  | error fault => simp [bind, Except.bind]
  | ok latency =>
      cases fields.read? "status" readUInt16? with
      | error fault => simp [bind, Except.bind]
      | ok status =>
          cases fields.read? "sample" readFlag? <;> simp [bind, Except.bind, pure, Except.pure]

end Reading

/-- A line is refused exactly if its first token is no command, or if the first value of a key that
the command is read for does not read as that key wants it. -/
theorem Request.parse_eq_error_iff {words : List (List Char)} {line : List Char}
    (spaced : Spaced words line) :
    (∃ fault, parse line = .error fault)
      ↔ words.headD [] ∉ ["ADMIT".toList, "COMPLETE".toList, "STATS".toList]
        ∨ ∃ key ∈ relevantKeys (words.headD []), ∃ value,
            firstValue? key words.tail = some value ∧ isWellFormed key value = false := by
  have spoils_iff {key : String} (isKey : '=' ∉ key.toList) :
      (Fields.ofTokens words.tail).Spoils key
        ↔ ∃ value, firstValue? key words.tail = some value ∧ isWellFormed key value = false := by
    rw [Fields.Spoils, Fields.get?_ofTokens isKey]
  unfold parse
  dsimp only
  rw [spaced.tokens_eq]
  generalize words.headD [] = command
  unfold relevantKeys
  split
  · next isAdmit =>
    rw [Request.readAdmit_eq_error_iff, spoils_iff (by decide)]
    simp [isAdmit]
  · next notAdmit =>
    split
    · next isComplete =>
      rw [Request.readComplete_eq_error_iff, spoils_iff (by decide), spoils_iff (by decide),
        spoils_iff (by decide)]
      simp [isComplete]
    · next notComplete =>
      split
      · next isStats => simp [isStats]
      · next notStats => simp_all

theorem Request.readAdmit_ne_stats (fields : Fields) : readAdmit fields ≠ .ok .stats := by
  unfold readAdmit Visitor.read
  cases fields.get? "kind" with
  | none => simp
  | some value =>
      dsimp only
      split
      · simp [Except.map]
      · split <;> simp [Except.map]

theorem Request.readComplete_ne_stats (fields : Fields) : readComplete fields ≠ .ok .stats := by
  unfold readComplete
  cases readLatency fields with
  | error fault => simp [bind, Except.bind]
  | ok latency =>
      cases fields.read? "status" readUInt16? with
      | error fault => simp [bind, Except.bind]
      | ok status =>
          cases fields.read? "sample" readFlag? <;> simp [bind, Except.bind, pure, Except.pure]

/-- A line asks for the state exactly if that is its first token, whatever follows. -/
theorem Request.parse_eq_stats_iff {words : List (List Char)} {line : List Char}
    (spaced : Spaced words line) :
    parse line = .ok .stats ↔ words.headD [] = "STATS".toList := by
  unfold parse
  dsimp only
  rw [spaced.tokens_eq]
  generalize words.headD [] = command
  split
  · next isAdmit => simp [isAdmit, readAdmit_ne_stats]
  · split
    · next isComplete => simp [isComplete, readComplete_ne_stats]
    · split <;> simp_all

end AdmissionControl.Wire
