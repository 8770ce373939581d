import AdmissionControl.Proofs.Binary64.Order
import AdmissionControl.Proofs.Text.Spacing
import AdmissionControl.Proofs.Wire.RequestCodec
import Mathlib.Logic.Relation

/-!
# What a request line is read for

Of a request line the reader sees the command word and, for each key of that command, the value of
the first token that gives it one. Lines that agree on these are read alike, down to the fault that
refuses them. So tokens without an equals sign, tokens with other keys and repeated keys can come and
go, tokens of different keys can change places, and blanks can be anything.
-/

namespace AdmissionControl.Wire

open Text

/-- The token gives a value to this key, which is all that stands before its first equals sign. -/
def HasKey (key token : List Char) : Prop :=
  '=' ∉ key ∧ ∃ value : List Char, token = key ++ '=' :: value

/-- The value that a token gives to a key: what follows the key and an equals sign. -/
def valueOf? (key : String) (token : List Char) : Option (List Char) :=
  if key.toList ++ ['='] <+: token then some (token.drop (key.toList.length + 1)) else none

/-- The value that a key has among tokens: the first one that a token gives to it. -/
def firstValue? (key : String) (words : List (List Char)) : Option (List Char) :=
  words.findSome? (valueOf? key)

/-- The keys that a command is read for. -/
def relevantKeys (command : List Char) : List String :=
  if command = "ADMIT".toList then ["kind"]
  else if command = "COMPLETE".toList then ["rtt_ms", "status", "sample"]
  else []

section Values

variable {key : String} {token value : List Char}

theorem valueOf?_field (key : String) (value : List Char) :
    valueOf? key (key.toList ++ '=' :: value) = some value := by
  have regrouped : key.toList ++ '=' :: value = key.toList ++ ['='] ++ value := by
    rw [List.append_assoc, List.singleton_append]
  have signLength : (key.toList ++ ['=']).length = key.toList.length + 1 := List.length_append
  rw [valueOf?, regrouped, if_pos (List.prefix_append _ _), List.drop_left' signLength]

theorem valueOf?_eq_some_iff :
    valueOf? key token = some value ↔ token = key.toList ++ '=' :: value := by
  constructor
  · intro given
    have isPrefix : key.toList ++ ['='] <+: token := by
      by_contra notPrefix
      rw [valueOf?, if_neg notPrefix] at given
      cases given
    obtain ⟨rest, eq⟩ := isPrefix
    rw [List.append_assoc, List.singleton_append] at eq
    rw [← eq, valueOf?_field] at given
    rw [← eq, Option.some.inj given]
  · rintro rfl
    exact valueOf?_field key value

/-- A token gives a key no value exactly if it does not have that key. -/
theorem valueOf?_eq_none_iff (isKey : '=' ∉ key.toList) :
    valueOf? key token = none ↔ ¬ HasKey key.toList token := by
  rw [Option.eq_none_iff_forall_ne_some]
  constructor
  · rintro none ⟨_, value, eq⟩
    exact none value (valueOf?_eq_some_iff.mpr eq)
  · intro other value given
    exact other ⟨isKey, value, valueOf?_eq_some_iff.mp given⟩

/-- A token has one key at most. -/
theorem HasKey.unique {first second : List Char} (ofFirst : HasKey first token)
    (ofSecond : HasKey second token) : first = second := by
  obtain ⟨firstIsKey, firstValue, rfl⟩ := ofFirst
  obtain ⟨secondIsKey, secondValue, eq⟩ := ofSecond
  have cutFirst := cut?_append firstIsKey firstValue
  rw [eq, cut?_append secondIsKey secondValue] at cutFirst
  exact (congrArg Prod.fst (Option.some.inj cutFirst)).symm

/-- Looking a key up among the fields finds the first value that a token gives to it. -/
theorem Fields.get?_ofTokens (isKey : '=' ∉ key.toList) (words : List (List Char)) :
    (Fields.ofTokens words).get? key = firstValue? key words := by
  induction words with
  | nil => rfl
  | cons token rest inductionHypothesis =>
      unfold Fields.ofTokens Fields.get? firstValue? at inductionHypothesis ⊢
      cases sides : cut? '=' token with
      | none =>
          have other : ¬ HasKey key.toList token := by
            rintro ⟨_, value, rfl⟩
            rw [cut?_append isKey] at sides
            cases sides
          rw [List.filterMap_cons_none sides, List.findSome?_cons,
            (valueOf?_eq_none_iff isKey).mpr other, inductionHypothesis]
      | some field =>
          obtain ⟨eq, isOther⟩ := eq_append_of_cut? sides
          rw [List.filterMap_cons_some sides, List.findSome?_cons, List.lookup_cons]
          by_cases same : key.toList = field.1
          · rw [valueOf?_eq_some_iff.mpr (by rwa [same]), beq_iff_eq.mpr same]
          · have other : ¬ HasKey key.toList token :=
              fun ofKey => same (ofKey.unique ⟨isOther, field.2, eq⟩)
            rw [(valueOf?_eq_none_iff isKey).mpr other, beq_eq_false_iff_ne.mpr same]
            exact inductionHypothesis

end Values

section Reading

theorem Request.readAdmit_congr {left right : Fields} (kind : left.get? "kind" = right.get? "kind") :
    readAdmit left = readAdmit right := by
  rw [readAdmit, readAdmit, kind]

theorem Fields.read?_congr {α : Type} {left right : Fields} {key : String}
    (read : List Char → Option α) (same : left.get? key = right.get? key) :
    left.read? key read = right.read? key read := by
  rw [Fields.read?, Fields.read?, same]

theorem Request.readComplete_congr {left right : Fields}
    (latency : left.get? "rtt_ms" = right.get? "rtt_ms")
    (status : left.get? "status" = right.get? "status")
    (sample : left.get? "sample" = right.get? "sample") :
    readComplete left = readComplete right := by
  have sameLatency : readLatency left = readLatency right := by
    rw [readLatency, readLatency, Fields.read?_congr _ latency]
  rw [readComplete, readComplete, sameLatency, Fields.read?_congr _ status,
    Fields.read?_congr _ sample]

theorem not_mem_of_mem_relevantKeys {command : List Char} {key : String}
    (relevant : key ∈ relevantKeys command) : '=' ∉ key.toList := by
  have known : key ∈ ["kind", "rtt_ms", "status", "sample"] := by
    unfold relevantKeys at relevant
    split at relevant
    · simp_all
    · split at relevant <;> simp_all
  simp only [List.mem_cons, List.not_mem_nil, or_false] at known
  rcases known with rfl | rfl | rfl | rfl <;> decide

/-- Lines with one command and the same first values of its keys are read alike. -/
theorem Request.parse_congr {left right : List Char}
    (command : (tokens left).headD [] = (tokens right).headD [])
    (values : ∀ key ∈ relevantKeys ((tokens left).headD []),
      firstValue? key (tokens left).tail = firstValue? key (tokens right).tail) :
    parse left = parse right := by
  have fields : ∀ key ∈ relevantKeys ((tokens left).headD []),
      (Fields.ofTokens (tokens left).tail).get? key
        = (Fields.ofTokens (tokens right).tail).get? key := by
    intro key relevant
    have isKey := not_mem_of_mem_relevantKeys relevant
    rw [Fields.get?_ofTokens isKey, Fields.get?_ofTokens isKey, values key relevant]
  unfold parse
  dsimp only
  rw [← command]
  generalize (tokens left).headD [] = word at fields ⊢
  unfold relevantKeys at fields
  split
  · next isAdmit =>
    rw [if_pos isAdmit] at fields
    exact readAdmit_congr (fields "kind" (by simp))
  · next notAdmit =>
    rw [if_neg notAdmit] at fields
    split
    · next isComplete =>
      rw [if_pos isComplete] at fields
      exact readComplete_congr (fields "rtt_ms" (by simp)) (fields "status" (by simp))
        (fields "sample" (by simp))
    · rfl

end Reading

section Latencies

theorem Request.readLatency_eq_ok {fields : Fields} {latency : Binary64}
    (accepted : readLatency fields = .ok latency) :
    latency.isFinite = true ∧ Binary64.zero.atMost latency = true := by
  unfold readLatency at accepted
  split at accepted
  · cases accepted
  · dsimp only at accepted
    split at accepted
    · next usable =>
      cases accepted
      rw [Bool.and_eq_true, Bool.not_eq_true'] at usable
      obtain ⟨finite, notBelow⟩ := usable
      refine ⟨finite, Binary64.atMost_of_lessThan_eq_false nofun ?_ notBelow⟩
      rintro notNumber
      rw [notNumber] at finite
      cases finite
    · cases accepted

/-- The latency of a completion is the one that its fields say. -/
theorem Request.readLatency_of_readComplete {fields : Fields} {latency : Binary64}
    {status : Option UInt16} {sampled : Bool}
    (accepted : readComplete fields = .ok (.complete latency status sampled)) :
    readLatency fields = .ok latency := by
  cases ofLatency : readLatency fields with
  | error fault =>
      rw [readComplete, ofLatency] at accepted
      cases accepted
  | ok value =>
      cases ofStatus : fields.read? "status" readUInt16? with
      | error fault =>
          rw [readComplete, ofLatency, ofStatus] at accepted
          cases accepted
      | ok code =>
          cases ofSample : fields.read? "sample" readFlag? with
          | error fault =>
              rw [readComplete, ofLatency, ofStatus, ofSample] at accepted
              cases accepted
          | ok flag =>
              rw [readComplete_of_read ofLatency ofStatus ofSample] at accepted
              cases accepted
              rfl

/-- A completion that is read has a latency that is a finite number from zero on. -/
theorem Request.latency_of_parse {line : List Char} {latency : Binary64} {status : Option UInt16}
    {sampled : Bool} (accepted : parse line = .ok (.complete latency status sampled)) :
    latency.isFinite = true ∧ Binary64.zero.atMost latency = true := by
  unfold parse at accepted
  dsimp only at accepted
  split at accepted
  · -- An admission request is never read as a completion.
    unfold readAdmit Visitor.read at accepted
    repeat' split at accepted
    all_goals cases accepted
  · split at accepted
    · exact readLatency_eq_ok (readLatency_of_readComplete accepted)
    · split at accepted <;> cases accepted

end Latencies

section Edits

/-- One change to the tokens after a command word, made for a command with these keys. -/
inductive Edit (keys : List String) : List (List Char) → List (List Char) → Prop
  /-- Neighbours that have no key in common change places. -/
  | swap (before after : List (List Char)) {left right : List Char}
      (distinct : ∀ key, HasKey key left → ¬ HasKey key right) :
      Edit keys (before ++ left :: right :: after) (before ++ right :: left :: after)
  /-- A token comes in that has none of the keys: it has another one, or no equals sign. -/
  | ignored (before after : List (List Char)) {token : List Char}
      (irrelevant : ∀ key ∈ keys, ¬ HasKey key.toList token) :
      Edit keys (before ++ after) (before ++ token :: after)
  /-- A token comes in whose key a token before it has already. -/
  | repeated (before after : List (List Char)) {earlier token key : List Char}
      (member : earlier ∈ before) (first : HasKey key earlier) (again : HasKey key token) :
      Edit keys (before ++ after) (before ++ token :: after)

variable {keys : List String} {key : String} {words edited : List (List Char)}

theorem firstValue?_cons (key : String) (token : List Char) (rest : List (List Char)) :
    firstValue? key (token :: rest) = (valueOf? key token).or (firstValue? key rest) := by
  rw [firstValue?, List.findSome?_cons]
  cases valueOf? key token <;> rfl

theorem firstValue?_append (key : String) (before after : List (List Char)) :
    firstValue? key (before ++ after) = (firstValue? key before).or (firstValue? key after) :=
  List.findSome?_append

/-- Where a token has a key, some token is the first that gives it a value. -/
theorem firstValue?_ne_none {token : List Char} (member : token ∈ words)
    (hasKey : HasKey key.toList token) : firstValue? key words ≠ none := by
  intro none
  have noValue := List.findSome?_eq_none_iff.mp none token member
  exact (valueOf?_eq_none_iff hasKey.1).mp noValue hasKey

/-- No edit changes the first value of a key that it is made for. -/
theorem Edit.firstValue?_eq (edit : Edit keys words edited) (relevant : key ∈ keys)
    (isKey : '=' ∉ key.toList) : firstValue? key words = firstValue? key edited := by
  cases edit with
  | swap before after distinct =>
      rename_i left right
      simp only [firstValue?_append, firstValue?_cons]
      by_cases ofLeft : HasKey key.toList left
      · rw [(valueOf?_eq_none_iff isKey).mpr (distinct _ ofLeft), Option.none_or, Option.none_or]
      · rw [(valueOf?_eq_none_iff isKey).mpr ofLeft, Option.none_or, Option.none_or]
  | ignored before after irrelevant =>
      rw [firstValue?_append, firstValue?_append, firstValue?_cons,
        (valueOf?_eq_none_iff isKey).mpr (irrelevant key relevant), Option.none_or]
  | repeated before after member first again =>
      rename_i earlier token repeatedKey
      rw [firstValue?_append, firstValue?_append, firstValue?_cons]
      by_cases ofToken : HasKey key.toList token
      · -- The value before it counts.
        rw [again.unique ofToken] at first
        obtain ⟨value, given⟩ := Option.ne_none_iff_exists'.mp (firstValue?_ne_none member first)
        rw [given, Option.some_or, Option.some_or]
      · rw [(valueOf?_eq_none_iff isKey).mpr ofToken, Option.none_or]

/-- Nor do any number of edits, made or taken back. -/
theorem firstValue?_eq_of_edits (edits : Relation.EqvGen (Edit keys) words edited)
    (relevant : key ∈ keys) (isKey : '=' ∉ key.toList) :
    firstValue? key words = firstValue? key edited := by
  induction edits with
  | rel _ _ edit => exact edit.firstValue?_eq relevant isKey
  | refl _ => rfl
  | symm _ _ _ inductionHypothesis => exact inductionHypothesis.symm
  | trans _ _ _ _ _ first second => exact first.trans second

/-- An edit may be made behind one more token. -/
theorem Edit.cons (token : List Char) (edit : Edit keys words edited) :
    Edit keys (token :: words) (token :: edited) := by
  cases edit with
  | swap before after distinct => exact .swap (token :: before) after distinct
  | ignored before after irrelevant => exact .ignored (token :: before) after irrelevant
  | repeated before after member first again =>
      exact .repeated (token :: before) after (List.mem_cons_of_mem _ member) first again

theorem edits_cons (token : List Char) (edits : Relation.EqvGen (Edit keys) words edited) :
    Relation.EqvGen (Edit keys) (token :: words) (token :: edited) := by
  induction edits with
  | rel _ _ edit => exact .rel _ _ (edit.cons token)
  | refl _ => exact .refl _
  | symm _ _ _ inductionHypothesis => exact .symm _ _ inductionHypothesis
  | trans _ _ _ _ _ first second => exact .trans _ _ _ first second

/-- No two of the tokens have a key in common. -/
def DistinctKeys (words : List (List Char)) : Prop :=
  words.Pairwise fun left right => ∀ key, HasKey key left → ¬ HasKey key right

/-- Tokens with distinct keys are brought into any order by exchanging neighbours. -/
theorem edits_of_perm (perm : words.Perm edited) (distinct : DistinctKeys words) :
    Relation.EqvGen (Edit keys) words edited := by
  induction perm with
  | nil => exact .refl _
  | cons token _ inductionHypothesis =>
      exact edits_cons token (inductionHypothesis (List.Pairwise.of_cons distinct))
  | swap first second rest =>
      have apart := List.rel_of_pairwise_cons distinct List.mem_cons_self
      exact .rel _ _ (.swap [] rest apart)
  | trans firstPerm _ ofFirst ofSecond =>
      have symmetric {left right : List Char} (apart : ∀ key, HasKey key left → ¬ HasKey key right) :
          ∀ key, HasKey key right → ¬ HasKey key left :=
        fun key ofRight ofLeft => apart key ofLeft ofRight
      exact .trans _ _ _ (ofFirst distinct) (ofSecond (firstPerm.pairwise distinct symmetric))

end Edits

/-- What a request line is read for. Every line has one list of tokens. Lines that begin with the
same token, and on which each key of that command has the same first value or none, are read as the
same request or refused for the same fault. So are lines whose tokens after the command differ by
edits: exchanged neighbours without a common key, and tokens without an equals sign, with another
key or with a key that came before, in any number and either way. So are lines whose tokens after the
command have distinct keys and stand in another order, and lines that differ in nothing but blanks.
A completion that is read has a finite latency of at least zero. -/
theorem Request.parse_sees_first_values :
    (∀ line : List Char, ∃! words : List (List Char), Spaced words line)
      ∧ (∀ (leftWords rightWords : List (List Char)) (left right : List Char),
          Spaced leftWords left → Spaced rightWords right →
          leftWords.head? = rightWords.head? →
          (∀ key ∈ relevantKeys (leftWords.headD []),
            firstValue? key leftWords.tail = firstValue? key rightWords.tail) →
          parse left = parse right)
      ∧ (∀ (command : List Char) (words edited : List (List Char)) (left right : List Char),
          Relation.EqvGen (Edit (relevantKeys command)) words edited →
          Spaced (command :: words) left → Spaced (command :: edited) right →
          parse left = parse right)
      ∧ (∀ (command : List Char) (words permuted : List (List Char)) (left right : List Char),
          words.Perm permuted → DistinctKeys words →
          Spaced (command :: words) left → Spaced (command :: permuted) right →
          parse left = parse right)
      ∧ (∀ (words : List (List Char)) (left right : List Char),
          Spaced words left → Spaced words right → parse left = parse right)
      ∧ ∀ (line : List Char) (latency : Binary64) (status : Option UInt16) (sampled : Bool),
          parse line = .ok (.complete latency status sampled) →
          latency.isFinite = true ∧ Binary64.zero.atMost latency = true := by
  have ofEdits (command : List Char) (words edited : List (List Char)) (left right : List Char)
      (edits : Relation.EqvGen (Edit (relevantKeys command)) words edited)
      (onLeft : Spaced (command :: words) left) (onRight : Spaced (command :: edited) right) :
      parse left = parse right := by
    refine parse_congr (by rw [onLeft.tokens_eq, onRight.tokens_eq]; rfl) ?_
    rw [onLeft.tokens_eq, onRight.tokens_eq]
    exact fun key relevant =>
      firstValue?_eq_of_edits edits relevant (not_mem_of_mem_relevantKeys relevant)
  refine ⟨fun line => ⟨tokens line, spaced_tokens line, fun _ spaced => spaced.tokens_eq.symm⟩, ?_,
    ofEdits, fun command words permuted left right perm distinct =>
      ofEdits command words permuted left right (edits_of_perm perm distinct), ?_,
    fun line latency status sampled => latency_of_parse⟩
  · intro leftWords rightWords left right onLeft onRight sameCommand sameValues
    rw [← onLeft.tokens_eq, ← onRight.tokens_eq] at sameCommand sameValues
    refine parse_congr ?_ sameValues
    rw [List.headD_eq_head?_getD, List.headD_eq_head?_getD, sameCommand]
  · intro words left right onLeft onRight
    refine parse_congr ?_ fun key _ => ?_ <;> rw [onLeft.tokens_eq, onRight.tokens_eq]

/-- Two lines with two malformed values each. Both are refused for the latency, which stands first on
one of them alone. -/
theorem Request.parse_sees_first_values_of_malformed :
    let left := "COMPLETE rtt_ms=fast status=200 sample=maybe".toList
    let right :=
      "\tCOMPLETE  sample=maybe stray rtt_ms=fast\u3000kind=robot status=200 rtt_ms=5\r\n".toList
    (tokens left).head? = (tokens right).head?
      ∧ (∀ key ∈ relevantKeys ((tokens left).headD []),
          firstValue? key (tokens left).tail = firstValue? key (tokens right).tail)
      ∧ parse left = parse right
      ∧ parse left = .error (.malformedField "rtt_ms" "fast".toList) := by
  intro left right
  have sameCommand : (tokens left).head? = (tokens right).head? := by decide +kernel
  have sameValues : ∀ key ∈ relevantKeys ((tokens left).headD []),
      firstValue? key (tokens left).tail = firstValue? key (tokens right).tail := by
    decide +kernel
  exact ⟨sameCommand, sameValues, parse_sees_first_values.2.1 _ _ left right (spaced_tokens left)
    (spaced_tokens right) sameCommand sameValues, by decide +kernel⟩

end AdmissionControl.Wire
