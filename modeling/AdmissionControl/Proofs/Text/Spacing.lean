import AdmissionControl.Proofs.Text.Words

/-!
# Spacing

A line is spaced out of tokens when these stand on it in order, with at least one blank between
neighbours and any blanks before and after them. `tokens` takes such a line apart again, whatever the
blanks are, and every line is spaced out of some tokens: `tokens_eq_iff` says that the two are one.
-/

namespace AdmissionControl.Text

/-- A text of blanks alone. -/
def AllBlank (text : List Char) : Prop := ∀ character ∈ text, isBlank character = true

instance (text : List Char) : Decidable (AllBlank text) :=
  decidable_of_iff (text.all isBlank = true) List.all_eq_true

/-- A carriage return before a line feed is blank as well. -/
example : AllBlank ['\r', '\n'] := by decide

/-- A line on which these tokens stand in order. What follows a token is nothing, or begins with a
blank. -/
inductive Spaced : List (List Char) → List Char → Prop
  | nil {blanks : List Char} (blank : AllBlank blanks) : Spaced [] blanks
  | cons {blanks token after : List Char} {rest : List (List Char)} (blank : AllBlank blanks)
      (isToken : IsToken token) (separated : ∀ character ∈ after.head?, isBlank character = true)
      (later : Spaced rest after) : Spaced (token :: rest) (blanks ++ token ++ after)

/-- A blank before a text adds no token. -/
theorem tokens_blank_cons {blank : Char} (isBlank : isBlank blank = true) (text : List Char) :
    tokens (blank :: text) = tokens text := tokens_append_cons [] text isBlank

/-- Nor do several. -/
theorem tokens_blanks_append {blanks : List Char} (blank : AllBlank blanks) (text : List Char) :
    tokens (blanks ++ text) = tokens text := by
  induction blanks with
  | nil => rfl
  | cons character rest inductionHypothesis =>
      obtain ⟨first, later⟩ := List.forall_mem_cons.mp blank
      rw [List.cons_append, tokens_blank_cons first, inductionHypothesis later]

theorem AllBlank.tokens {blanks : List Char} (blank : AllBlank blanks) : tokens blanks = [] := by
  have none := tokens_blanks_append blank []
  rwa [List.append_nil, tokens_nil] at none

/-- Blanks after a text add no token. -/
theorem tokens_append_blanks (text : List Char) {blanks : List Char} (blank : AllBlank blanks) :
    tokens (text ++ blanks) = tokens text := by
  cases blanks with
  | nil => rw [List.append_nil]
  | cons character rest =>
      obtain ⟨first, later⟩ := List.forall_mem_cons.mp blank
      rw [tokens_append_cons text rest first, AllBlank.tokens later, List.append_nil]

/-- A token is separated from what follows it by a blank there. -/
theorem tokens_token_append {token after : List Char} (isToken : IsToken token)
    (separated : ∀ character ∈ after.head?, isBlank character = true) :
    tokens (token ++ after) = token :: tokens after := by
  cases after with
  | nil => rw [List.append_nil, isToken.tokens, tokens_nil]
  | cons blank rest =>
      have isBlank : isBlank blank = true := separated blank rfl
      rw [tokens_append_cons token rest isBlank, isToken.tokens, tokens_blank_cons isBlank]
      rfl

/-- The tokens of a line are those that it is spaced out of. -/
theorem Spaced.tokens_eq {words : List (List Char)} {line : List Char}
    (spaced : Spaced words line) : tokens line = words := by
  induction spaced with
  | nil blank => exact blank.tokens
  | cons blank isToken separated later inductionHypothesis =>
      rw [List.append_assoc, tokens_blanks_append blank, tokens_token_append isToken separated,
        inductionHypothesis]

/-- One blank more at the beginning changes nothing. -/
theorem Spaced.blank_cons {words : List (List Char)} {line : List Char} {blank : Char}
    (isBlank : isBlank blank = true) (spaced : Spaced words line) : Spaced words (blank :: line) := by
  cases spaced with
  | nil allBlank => exact .nil (List.forall_mem_cons.mpr ⟨isBlank, allBlank⟩)
  | cons allBlank isToken separated later =>
      exact .cons (List.forall_mem_cons.mpr ⟨isBlank, allBlank⟩) isToken separated later

/-- A character that is no blank begins a token of its own, or becomes the first of the token that
follows without a blank. -/
theorem Spaced.exists_solid_cons {words : List (List Char)} {line : List Char} {character : Char}
    (solid : isBlank character = false) (spaced : Spaced words line) :
    ∃ longer : List (List Char), Spaced longer (character :: line) := by
  have single : IsToken [character] := ⟨List.cons_ne_nil _ _, List.forall_mem_singleton.mpr solid⟩
  have noBlanks : AllBlank [] := List.forall_mem_nil _
  cases spaced with
  | nil blank =>
      refine ⟨[[character]], .cons noBlanks single (fun first isFirst => ?_) (.nil blank)⟩
      exact blank first (List.mem_of_mem_head? isFirst)
  | @cons blanks token after rest blank isToken separated later =>
      cases blanks with
      | nil =>
          have extended : IsToken (character :: token) :=
            ⟨List.cons_ne_nil _ _, List.forall_mem_cons.mpr ⟨solid, isToken.solid⟩⟩
          exact ⟨(character :: token) :: rest, .cons noBlanks extended separated later⟩
      | cons first more =>
          refine ⟨[character] :: token :: rest,
            .cons noBlanks single ?_ (.cons blank isToken separated later)⟩
          rintro _ ⟨⟩
          exact blank first List.mem_cons_self

/-- Every line is spaced out of its tokens. -/
theorem spaced_tokens (line : List Char) : Spaced (tokens line) line := by
  have exists_spaced : ∃ words : List (List Char), Spaced words line := by
    induction line with
    | nil => exact ⟨[], .nil (List.forall_mem_nil _)⟩
    | cons character rest inductionHypothesis =>
        obtain ⟨words, spaced⟩ := inductionHypothesis
        cases blank : isBlank character with
        | true => exact ⟨words, spaced.blank_cons blank⟩
        | false => exact spaced.exists_solid_cons blank
  obtain ⟨words, spaced⟩ := exists_spaced
  rwa [spaced.tokens_eq]

/-- The tokens of a line are exactly what it is spaced out of. -/
theorem tokens_eq_iff {words : List (List Char)} {line : List Char} :
    tokens line = words ↔ Spaced words line :=
  ⟨fun eq => eq ▸ spaced_tokens line, Spaced.tokens_eq⟩

end AdmissionControl.Text
