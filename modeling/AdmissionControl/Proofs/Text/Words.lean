import AdmissionControl.Text.Blank
import AdmissionControl.Text.Bytes
import AdmissionControl.Text.Numeral
import Mathlib.Data.List.Induction

/-!
# Words

A word is a nonempty text of visible ASCII characters. Between blanks it comes back as one token,
and each of its characters is one byte. What the wire carries is made of words: keys, digits and
verdicts.
-/

namespace AdmissionControl.Text

/-- The ASCII characters that leave ink. -/
def isVisible (character : Char) : Bool := 0x21 ≤ character.toNat && character.toNat ≤ 0x7e

/-- A nonempty text of visible characters. -/
structure IsWord (text : List Char) : Prop where
  ne_nil : text ≠ []
  visible : ∀ character ∈ text, isVisible character = true

theorem IsWord.of_all {text : List Char} (isWord : (!text.isEmpty && text.all isVisible) = true) :
    IsWord text := by
  rw [Bool.and_eq_true, Bool.not_eq_true', List.isEmpty_eq_false_iff, List.all_eq_true] at isWord
  exact ⟨isWord.1, isWord.2⟩

theorem isVisible_of_isDigit {character : Char} (digit : character.isDigit = true) :
    isVisible character = true := by
  simp only [Char.isDigit, Bool.and_eq_true, decide_eq_true_eq, ge_iff_le,
    UInt32.le_iff_toNat_le] at digit
  obtain ⟨atLeast, atMost⟩ := digit
  simp only [isVisible, Bool.and_eq_true, decide_eq_true_eq, Char.toNat]
  exact ⟨Nat.le_trans (by decide) atLeast, Nat.le_trans atMost (by decide)⟩

theorem isBlank_of_isVisible {character : Char} (visible : isVisible character = true) :
    isBlank character = false := by
  simp only [isVisible, Bool.and_eq_true, decide_eq_true_eq] at visible
  simp only [isBlank, blankRanges, List.any_cons, List.any_nil, Bool.or_eq_false_iff,
    Bool.and_eq_false_iff, decide_eq_false_iff_not, and_true]
  omega

/-- Numerals are words. -/
theorem Numeral.isWord_write (number : Nat) : IsWord (write number) where
  ne_nil := write_ne_nil number
  visible _ member :=
    isVisible_of_isDigit (Nat.isDigit_of_mem_toDigits (by decide) (by decide) member)

theorem Numeral.isDigit_of_mem_write {number : Nat} {character : Char}
    (member : character ∈ write number) : character.isDigit = true :=
  Nat.isDigit_of_mem_toDigits (by decide) (by decide) member

section Tokens

theorem tokens_nil : tokens [] = [] := rfl

/-- A blank separates the tokens before it from those after it. -/
theorem tokens_append_cons (before after : List Char) {blank : Char}
    (isBlank : isBlank blank = true) :
    tokens (before ++ blank :: after) = tokens before ++ tokens after := by
  rw [tokens, List.splitOnP_append_cons before after isBlank, List.filter_append]
  rfl

/-- A nonempty text without blanks. -/
structure IsToken (text : List Char) : Prop where
  ne_nil : text ≠ []
  solid : ∀ character ∈ text, isBlank character = false

theorem IsToken.tokens {token : List Char} (isToken : IsToken token) : tokens token = [token] := by
  rw [Text.tokens, List.splitOnP_eq_singleton isToken.solid]
  simp [isToken.ne_nil]

theorem IsWord.isToken {word : List Char} (isWord : IsWord word) : IsToken word where
  ne_nil := isWord.ne_nil
  solid character member := isBlank_of_isVisible (isWord.visible character member)

theorem IsWord.tokens {word : List Char} (isWord : IsWord word) : tokens word = [word] :=
  isWord.isToken.tokens

/-- Words after blanks are the tokens after those of the text before them. -/
theorem tokens_append_words (text : List Char) {words : List (List Char)}
    (areWords : ∀ word ∈ words, IsWord word) :
    tokens (text ++ words.flatMap (' ' :: ·)) = tokens text ++ words := by
  induction words generalizing text with
  | nil => rw [List.flatMap_nil, List.append_nil, List.append_nil]
  | cons word rest inductionHypothesis =>
      obtain ⟨first, later⟩ := List.forall_mem_cons.mp areWords
      have regrouped : text ++ (word :: rest).flatMap (' ' :: ·)
          = (text ++ ' ' :: word) ++ rest.flatMap (' ' :: ·) := by
        rw [List.flatMap_cons, List.append_assoc, List.cons_append]
      rw [regrouped, inductionHypothesis (text ++ ' ' :: word) later,
        tokens_append_cons text word rfl, first.tokens, List.append_assoc]
      rfl

/-- Blanks at the end of a line leave its tokens alone. -/
theorem tokens_dropEndWhile {drop : Char → Bool}
    (blank : ∀ character, drop character = true → isBlank character = true) (line : List Char) :
    tokens (dropEndWhile drop line) = tokens line := by
  induction line using List.reverseRecOn with
  | nil => rfl
  | append_singleton text character inductionHypothesis =>
      cases dropped : drop character with
      | true =>
          have shorter : dropEndWhile drop (text ++ [character]) = dropEndWhile drop text := by
            simp [dropEndWhile, dropped]
          rw [shorter, inductionHypothesis, tokens_append_cons text [] (blank _ dropped),
            tokens_nil, List.append_nil]
      | false =>
          have kept : dropEndWhile drop (text ++ [character]) = text ++ [character] := by
            simp [dropEndWhile, dropped]
          rw [kept]

/-- The first separator is the one after a text that holds none. -/
theorem cut?_append {α : Type} [DecidableEq α] {separator : α} {before : List α}
    (absent : separator ∉ before) (after : List α) :
    cut? separator (before ++ separator :: after) = some (before, after) := by
  induction before with
  | nil => simp [cut?]
  | cons item rest inductionHypothesis =>
      obtain ⟨different, later⟩ := not_or.mp (mt List.mem_cons.mpr absent)
      rw [List.cons_append, cut?, if_neg (Ne.symm different), inductionHypothesis later]
      rfl

/-- Text is cut where its first separator stands. -/
theorem eq_append_of_cut? {α : Type} [DecidableEq α] {separator : α} {items before after : List α}
    (eq : cut? separator items = some (before, after)) :
    items = before ++ separator :: after ∧ separator ∉ before := by
  induction items generalizing before with
  | nil => cases eq
  | cons item rest inductionHypothesis =>
      rw [cut?] at eq
      split at eq
      · next same =>
        cases eq
        exact ⟨by rw [same, List.nil_append], List.not_mem_nil⟩
      · next different =>
        obtain ⟨⟨first, last⟩, ofRest, sides⟩ := Option.map_eq_some_iff.mp eq
        cases sides
        obtain ⟨restEq, absent⟩ := inductionHypothesis ofRest
        exact ⟨by rw [restEq, List.cons_append], List.not_mem_cons_of_ne_of_not_mem (Ne.symm different) absent⟩

/-- Text without a separator is not cut. -/
theorem cut?_eq_none_iff {α : Type} [DecidableEq α] {separator : α} {items : List α} :
    cut? separator items = none ↔ separator ∉ items := by
  constructor
  · intro uncut member
    obtain ⟨before, after, eq, absent⟩ := List.eq_append_cons_of_mem member
    rw [eq, cut?_append absent] at uncut
    cases uncut
  · intro absent
    by_contra cut
    obtain ⟨⟨before, after⟩, eq⟩ := Option.ne_none_iff_exists'.mp cut
    exact absent ((eq_append_of_cut? eq).1 ▸ List.mem_append_right _ List.mem_cons_self)

end Tokens

section Bytes

/-- ASCII text has one byte for each character. -/
theorem encode_of_ascii {text : List Char}
    (ascii : ∀ character ∈ text, character.toNat ≤ 0x7f) :
    encode text = text.map fun character => .ofNat character.toNat := by
  induction text with
  | nil => rfl
  | cons character rest inductionHypothesis =>
      obtain ⟨first, later⟩ := List.forall_mem_cons.mp ascii
      have single : String.utf8EncodeChar character = [.ofNat character.toNat] := if_pos first
      rw [encode, List.flatMap_cons, single, List.map_cons, ← inductionHypothesis later]
      rfl

/-- Words, blanks between them, and a line feed at the end. -/
def IsLine (text : List Char) : Prop :=
  ∃ body : List Char, text = body ++ ['\n']
    ∧ ∀ character ∈ body, isVisible character = true ∨ character = ' '

/-- A line has one byte for each character, and its only line feed ends it. -/
theorem IsLine.exists_bytes {text : List Char} (isLine : IsLine text) :
    ∃ bytes : List UInt8, encode text = bytes ++ [10] ∧ 10 ∉ bytes
      ∧ bytes.length + 1 = text.length := by
  obtain ⟨body, rfl, characters⟩ := isLine
  have printable : ∀ character ∈ body, 0x20 ≤ character.toNat ∧ character.toNat ≤ 0x7e := by
    intro character member
    rcases characters character member with visible | rfl
    · simp only [isVisible, Bool.and_eq_true, decide_eq_true_eq] at visible
      omega
    · decide
  have eq := encode_of_ascii fun character member =>
    Nat.le_trans (printable character member).2 (by decide)
  refine ⟨encode body, by rw [encode, List.flatMap_append]; rfl, ?_, ?_⟩
  · rw [eq, List.mem_map]
    rintro ⟨character, member, same⟩
    have bounds := printable character member
    have values := congrArg UInt8.toNat same
    have ten : UInt8.toNat 10 = 10 := rfl
    have size : UInt8.size = 256 := rfl
    rw [UInt8.toNat_ofNat_of_lt' (by omega)] at values
    omega
  · rw [eq, List.length_map, List.length_append, List.length_singleton]

end Bytes

end AdmissionControl.Text
