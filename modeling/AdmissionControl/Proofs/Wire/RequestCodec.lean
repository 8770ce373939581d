import AdmissionControl.Proofs.Wire.Lines

/-!
# Requests on the wire

An encoded request reads back as the request, except that its latency has become a whole number of
milliseconds. Encoded admission and state requests have fixed short lengths; a completion is as long
as its numbers.
-/

namespace AdmissionControl.Wire.Request

open Text

/-- The first word of a request line. -/
def command : Request → List Char
  | .admission _ => "ADMIT".toList
  | .complete .. => "COMPLETE".toList
  | .stats => "STATS".toList

/-- The fields of a request line. -/
def fields : Request → Fields
  | .admission visitor => [("kind".toList, visitor.write)]
  | .complete latency status sampled =>
      ("rtt_ms".toList, Numeral.write (latency.roundWithin greatestLatency))
        :: ((status.map fun code => ("status".toList, Numeral.write code.toNat)).toList
          ++ if sampled then [] else [("sample".toList, writeFlag false)])
  | .stats => []

/-- The request as the far end reads it: a latency in whole milliseconds of a 64-bit word. -/
def received : Request → Request
  | .complete latency status sampled =>
      .complete (.ofNat (latency.roundWithin greatestLatency)) status sampled
  | request => request

theorem encode_eq_writeLine (request : Request) :
    request.encode = writeLine request.command request.fields := by
  cases request with
  | admission visitor => cases visitor <;> rfl
  | stats => rfl
  | complete latency status sampled =>
      unfold encode writeLine command fields
      generalize Numeral.write (latency.roundWithin greatestLatency) = number
      cases status <;> cases sampled <;> simp [writeField, writeFlag]

theorem isWord_command (request : Request) : IsWord request.command := by
  cases request <;> exact .of_all rfl

theorem isField_fields (request : Request) : ∀ field ∈ request.fields, IsField field := by
  intro field member
  cases request with
  | admission visitor =>
      rw [List.mem_singleton.mp member]
      exact isField_of_word (.of_all rfl) rfl (by cases visitor <;> exact .of_all rfl)
  | stats => cases member
  | complete latency status sampled =>
      rcases List.mem_cons.mp member with rfl | later
      · exact isField_of_word (.of_all rfl) rfl (Numeral.isWord_write _)
      · rcases List.mem_append.mp later with inStatus | inSample
        · cases status with
          | none => cases inStatus
          | some code =>
              rw [List.mem_singleton.mp inStatus]
              exact isField_of_word (.of_all rfl) rfl (Numeral.isWord_write _)
        · cases sampled with
          | true => cases inSample
          | false =>
              rw [List.mem_singleton.mp inSample]
              exact isField_of_word (.of_all rfl) rfl (isWord_writeFlag false)

theorem tokens_encode (request : Request) :
    tokens request.encode = request.command :: request.fields.map writeField := by
  rw [encode_eq_writeLine, tokens_writeLine request.isWord_command request.isField_fields]

/-- Blanks at the end of a request line make no difference. -/
theorem parse_dropEndWhile {drop : Char → Bool}
    (blank : ∀ character, drop character = true → isBlank character = true) (line : List Char) :
    parse (dropEndWhile drop line) = parse line := by
  unfold parse
  rw [tokens_dropEndWhile blank]

/-- A finite latency that is not negative is taken as it is read. -/
theorem readLatency_of_read {fields : Fields} {magnitude : Binary64.Magnitude}
    (read : fields.read? "rtt_ms" Binary64.read? = .ok (some (.finite false magnitude))) :
    readLatency fields = .ok (.finite false magnitude) := by
  have notNegative : (Binary64.finite false magnitude).lessThan .zero = false := by
    simp [Binary64.lessThan, Binary64.rank, Binary64.zero, Binary64.Magnitude.zero]
  simp [readLatency, read, notNegative, Binary64.isFinite]

/-- A whole number in a 64-bit word is a usable latency. -/
theorem readLatency_write {fields : Fields} {number : Nat} (word : number < 2 ^ 64)
    (given : fields.get? "rtt_ms" = some (Numeral.write number)) :
    readLatency fields = .ok (.ofNat number) := by
  obtain ⟨magnitude, eq⟩ := Binary64.exists_ofNat_eq (Nat.le_of_lt word)
  have read := Binary64.read?_write word
  rw [eq] at read ⊢
  refine readLatency_of_read ?_
  rw [Fields.read?, given]
  dsimp only
  rw [read]

/-- What is read of a completion is what each of its fields says. -/
theorem readComplete_of_read {fields : Fields} {latency : Binary64} {status : Option UInt16}
    {sampled : Option Bool} (ofLatency : readLatency fields = .ok latency)
    (ofStatus : fields.read? "status" readUInt16? = .ok status)
    (ofSample : fields.read? "sample" readFlag? = .ok sampled) :
    readComplete fields = .ok (.complete latency status (sampled.getD true)) := by
  rw [readComplete, ofLatency, ofStatus, ofSample]
  rfl

theorem parse_of_tokens {line command : List Char} {rest : List (List Char)}
    (eq : tokens line = command :: rest) :
    parse line
      = if command = "ADMIT".toList then readAdmit (Fields.ofTokens rest)
        else if command = "COMPLETE".toList then readComplete (Fields.ofTokens rest)
        else if command = "STATS".toList then .ok .stats
        else .error (.unknownCommand command) := by
  unfold parse
  rw [eq]
  rfl

/-- An encoded request reads back as the request with its latency in whole milliseconds. -/
theorem parse_encode (request : Request) : parse request.encode = .ok request.received := by
  rw [parse_of_tokens request.tokens_encode,
    Fields.ofTokens_map_writeField request.isField_fields]
  cases request with
  | admission visitor => cases visitor <;> rfl
  | stats => rfl
  | complete latency status sampled =>
      have word : latency.roundWithin greatestLatency < 2 ^ 64 :=
        Nat.lt_of_le_of_lt (Binary64.floorWithin_le _ _) (by decide)
      have ofStatus : (complete latency status sampled).fields.read? "status" readUInt16?
          = .ok status := by
        cases status with
        | none => cases sampled <;> rfl
        | some code =>
            have given : (complete latency (some code) sampled).fields.get? "status"
                = some (Numeral.write code.toNat) := rfl
            simp only [Fields.read?, given, readUInt16?_write]
      have ofSample : (complete latency status sampled).fields.read? "sample" readFlag?
          = .ok (if sampled then none else some false) := by
        cases status <;> cases sampled <;> rfl
      have isComplete : (complete latency status sampled).command = "COMPLETE".toList := rfl
      rw [isComplete, if_neg (by decide), if_pos rfl,
        readComplete_of_read (readLatency_write word rfl) ofStatus ofSample]
      cases sampled <;> rfl

/-- The length of the longest request line. -/
def longestLine : Nat := 59

/-- No line is longer: a latency has at most twenty digits and a status at most five. -/
theorem length_encode_le (request : Request) : request.encode.length ≤ longestLine := by
  cases request with
  | admission visitor => cases visitor <;> decide
  | stats => decide
  | complete latency status sampled =>
      have latencyDigits :
          (Numeral.write (latency.roundWithin greatestLatency)).length ≤ 20 :=
        (Nat.length_toDigits_le_iff (by decide) (by decide)).mpr
          (Nat.lt_of_le_of_lt (Binary64.floorWithin_le _ _) (by decide))
      have statusDigits (code : UInt16) : (Numeral.write code.toNat).length ≤ 5 :=
        (Nat.length_toDigits_le_iff (by decide) (by decide)).mpr
          (Nat.lt_trans code.toNat_lt (by decide))
      have sampleLength : (if sampled then [] else " sample=0".toList).length ≤ 9 := by
        cases sampled <;> decide
      have wordLength : "COMPLETE rtt_ms=".toList.length = 16 := by decide
      have statusLength : " status=".toList.length = 8 := by decide
      unfold encode longestLine
      cases status with
      | none =>
          simp only [List.length_append, List.length_singleton, List.length_nil]
          omega
      | some code =>
          have codeDigits := statusDigits code
          simp only [List.length_append, List.length_singleton]
          omega

/-- The longest line is attained by an unsampled completion of unbounded latency with a status of
five digits. -/
theorem length_encode_longest :
    (complete (.infinite false) (some 65535) false).encode.length = longestLine := by
  decide +kernel

theorem isLine_encode (request : Request) : IsLine request.encode := by
  rw [encode_eq_writeLine]
  exact isLine_writeLine request.isWord_command request.isField_fields

end AdmissionControl.Wire.Request
