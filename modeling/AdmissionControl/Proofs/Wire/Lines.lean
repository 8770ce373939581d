import AdmissionControl.Proofs.Binary64.Rounding
import AdmissionControl.Proofs.Text.Words
import AdmissionControl.Wire.Request
import Mathlib.Data.List.TakeWhile

/-!
# Lines and their fields

Both directions of the wire send a first word and then fields, each after one blank. Reading such a
line gives back the word, the fields and their values. Numbers and flags read back as they were
written.
-/

namespace AdmissionControl

open Text

section Values

/-- A numeral below the bound reads back. -/
theorem Text.Numeral.readBelow?_write {bound number : Nat} (below : number < bound) :
    readBelow? bound (write number) = some number := by
  have read : read? (write number) = some number := by
    unfold read?
    split
    · next digits eq =>
      have sign : '+' ∈ write number := by rw [eq]; exact List.mem_cons_self
      exact absurd (isDigit_of_mem_write sign) (by decide)
    · exact readDigits?_write number
  simp only [readBelow?, read]
  rw [if_pos below]

theorem Wire.readUInt16?_write (word : UInt16) :
    readUInt16? (Numeral.write word.toNat) = some word := by
  rw [readUInt16?, Numeral.readBelow?_write word.toNat_lt, Option.map_some, UInt16.ofNat_toNat]

theorem Wire.readUInt32?_write (word : UInt32) :
    readUInt32? (Numeral.write word.toNat) = some word := by
  rw [readUInt32?, Numeral.readBelow?_write word.toNat_lt, Option.map_some, UInt32.ofNat_toNat]

theorem Wire.readFlag?_writeFlag (flag : Bool) : readFlag? (writeFlag flag) = some flag := by
  cases flag <;> rfl

theorem Wire.isWord_writeFlag (flag : Bool) : IsWord (writeFlag flag) := by
  cases flag <;> exact .of_all rfl

theorem Binary64.toLower_of_isDigit {character : Char} (digit : character.isDigit = true) :
    character.toLower = character := by
  simp only [Char.isDigit, Bool.and_eq_true, decide_eq_true_eq] at digit
  refine dif_neg fun upper => ?_
  exact absurd (UInt32.le_trans upper.1 digit.2) (by decide)

/-- Digits alone are the whole part of a number. -/
theorem Binary64.read?_of_digits {text : List Char} (nonempty : text ≠ [])
    (digits : ∀ character ∈ text, character.isDigit = true) :
    read? text = some (ofDecimal false (Nat.ofDigitChars 10 text 0) 0) := by
  have unsigned : readUnsigned? false text
      = some (ofDecimal false (Nat.ofDigitChars 10 text 0) 0) := by
    have whole : text.takeWhile Char.isDigit = text := List.takeWhile_eq_self_iff.mpr digits
    have rest : text.dropWhile Char.isDigit = [] := List.dropWhile_eq_nil_iff.mpr digits
    -- The words for what is no number all start with a letter.
    have notWord {letter : Char} {letters : List Char} (notDigit : letter.isDigit = false) :
        text.map Char.toLower ≠ letter :: letters := by
      intro eq
      obtain ⟨digit, more, rfl⟩ := List.exists_cons_of_ne_nil nonempty
      have isDigit := digits digit List.mem_cons_self
      have lowered := (List.cons.inj eq).1
      rw [toLower_of_isDigit isDigit] at lowered
      rw [lowered, notDigit] at isDigit
      exact Bool.false_ne_true isDigit
    have notInfinite : ¬ (text.map Char.toLower = "inf".toList
        ∨ text.map Char.toLower = "infinity".toList) :=
      not_or.mpr ⟨notWord (by decide), notWord (by decide)⟩
    have notNan : text.map Char.toLower ≠ "nan".toList := notWord (by decide)
    unfold readUnsigned?
    dsimp only
    rw [if_neg notInfinite, if_neg notNan, whole, rest]
    simp [splitFraction, readExponent?, nonempty]
  unfold read?
  split
  · exact absurd (digits '-' List.mem_cons_self) (by decide)
  · exact absurd (digits '+' List.mem_cons_self) (by decide)
  · exact unsigned

/-- A whole number of at most 320 digits is within the scales that are looked at digit by digit. -/
theorem Binary64.ofDecimal_zero_of_length_le {number : Nat}
    (short : (Numeral.write number).length ≤ 320) : ofDecimal false number 0 = ofNat number := by
  have positive : 0 < (Numeral.write number).length := Nat.length_toDigits_pos
  unfold ofDecimal
  dsimp only
  by_cases zero : number = 0
  · rw [if_pos (.inl zero), zero, ofNat_eq (by decide)]
    simp only [Nat.zero_mul]
    rfl
  · rw [if_neg (by omega), if_neg (by omega), if_pos (by decide), Int.toNat_zero, Nat.pow_zero,
      Nat.mul_one, ofNat]

/-- A whole number below `2 ^ 64` is read as the value nearest to it. -/
theorem Binary64.ofDecimal_zero {number : Nat} (word : number < 2 ^ 64) :
    ofDecimal false number 0 = ofNat number := by
  have short : (Numeral.write number).length ≤ 20 :=
    (Nat.length_toDigits_le_iff (by decide) (by decide)).mpr (Nat.lt_trans word (by decide))
  exact ofDecimal_zero_of_length_le (Nat.le_trans short (by decide))

/-- The numeral of a 64-bit word reads as the value nearest to it. -/
theorem Binary64.read?_write {number : Nat} (word : number < 2 ^ 64) :
    read? (Numeral.write number) = some (ofNat number) := by
  have digits : ∀ character ∈ Numeral.write number, character.isDigit = true :=
    fun _ member => Numeral.isDigit_of_mem_write member
  have denoted : Nat.ofDigitChars 10 (Numeral.write number) 0 = number :=
    Nat.ofDigitChars_toDigits (by decide) (by decide)
  have value : ofDecimal false number 0 = ofNat number := ofDecimal_zero word
  rw [read?_of_digits (Numeral.write_ne_nil number) digits, denoted, value]

end Values

namespace Wire

/-- A field as it stands on a line. -/
def writeField (field : List Char × List Char) : List Char := field.1 ++ '=' :: field.2

/-- A line of a first word and fields, with its terminator. -/
def writeLine (first : List Char) (fields : Fields) : List Char :=
  first ++ (fields.map writeField).flatMap (' ' :: ·) ++ ['\n']

/-- A field whose key and value are words, with no equals sign in the key. -/
structure IsField (field : List Char × List Char) : Prop where
  key : IsWord field.1
  value : IsWord field.2
  cut : '=' ∉ field.1

theorem isField_of_word {key value : List Char} (isKey : IsWord key)
    (cut : key.contains '=' = false) (isValue : IsWord value) : IsField (key, value) :=
  ⟨isKey, isValue, fun member => by simp_all⟩

theorem IsField.isWord {field : List Char × List Char} (isField : IsField field) :
    IsWord (writeField field) := by
  refine ⟨List.append_ne_nil_of_left_ne_nil isField.key.ne_nil _, ?_⟩
  intro character member
  rcases List.mem_append.mp member with inKey | afterKey
  · exact isField.key.visible character inKey
  · rcases List.mem_cons.mp afterKey with sign | inValue
    · rw [sign]
      rfl
    · exact isField.value.visible character inValue

/-- The first equals sign is the one after the key. -/
theorem cut?_writeField {field : List Char × List Char} (isField : IsField field) :
    cut? '=' (writeField field) = some field :=
  cut?_append isField.cut field.2

variable {first : List Char} {fields : Fields}

/-- The tokens of a line are its first word and its fields. -/
theorem tokens_writeLine (isWord : IsWord first) (areFields : ∀ field ∈ fields, IsField field) :
    tokens (writeLine first fields) = first :: fields.map writeField := by
  have areWords : ∀ word ∈ fields.map writeField, IsWord word := by
    intro word member
    obtain ⟨field, inFields, eq⟩ := List.mem_map.mp member
    exact eq ▸ (areFields field inFields).isWord
  rw [writeLine, tokens_append_cons _ [] rfl, tokens_append_words first areWords, isWord.tokens,
    tokens_nil, List.append_nil]
  rfl

theorem Fields.ofTokens_map_writeField (areFields : ∀ field ∈ fields, IsField field) :
    Fields.ofTokens (fields.map writeField) = fields := by
  induction fields with
  | nil => rfl
  | cons field rest inductionHypothesis =>
      obtain ⟨isField, later⟩ := List.forall_mem_cons.mp areFields
      have ofRest := inductionHypothesis later
      unfold Fields.ofTokens at ofRest ⊢
      rw [List.map_cons, List.filterMap_cons_some (cut?_writeField isField), ofRest]

theorem isLine_writeLine (isWord : IsWord first) (areFields : ∀ field ∈ fields, IsField field) :
    IsLine (writeLine first fields) := by
  refine ⟨_, rfl, ?_⟩
  intro character member
  rcases List.mem_append.mp member with inFirst | inFields
  · exact .inl (isWord.visible character inFirst)
  · obtain ⟨word, inWords, inWord⟩ := List.mem_flatMap.mp inFields
    obtain ⟨field, inFields, eq⟩ := List.mem_map.mp inWords
    rcases List.mem_cons.mp inWord with blank | later
    · exact .inr blank
    · exact .inl ((areFields field inFields).isWord.visible character (eq ▸ later))

end Wire

end AdmissionControl
