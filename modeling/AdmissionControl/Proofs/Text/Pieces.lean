import AdmissionControl.Proofs.Text.Spacing
import Mathlib.Data.List.TakeWhile

/-!
# Pieces between separators, and trimmed text

`IsPiece` and `Trims` say what it means that a text stands between separators of another one, and
that it is another one without the blanks at its ends. Splitting finds exactly the pieces, and
trimming gives exactly the trimmed text.
-/

namespace AdmissionControl.Text

section Pieces

variable {α : Type} {separator : α} {piece : List α}

/-- The items stand between separators, or between one and an end. -/
inductive IsPiece (separator : α) (piece : List α) : List α → Prop
  | whole (solid : separator ∉ piece) : IsPiece separator piece piece
  | first (solid : separator ∉ piece) (after : List α) :
      IsPiece separator piece (piece ++ separator :: after)
  | later (before : List α) {after : List α} (isPiece : IsPiece separator piece after) :
      IsPiece separator piece (before ++ separator :: after)

variable [DecidableEq α]

theorem IsPiece.mem_splitOn {items : List α} (isPiece : IsPiece separator piece items) :
    piece ∈ items.splitOn separator := by
  induction isPiece with
  | whole solid => rw [List.splitOn_eq_singleton solid, List.mem_singleton]
  | first solid after =>
      rw [List.splitOn_append_cons_self, List.splitOn_eq_singleton solid]
      exact List.mem_cons_self
  | later before _ inductionHypothesis =>
      rw [List.splitOn_append_cons_self]
      exact List.mem_append_right _ inductionHypothesis

/-- Splitting finds exactly the pieces. -/
theorem mem_splitOn_iff {items : List α} :
    piece ∈ items.splitOn separator ↔ IsPiece separator piece items := by
  refine ⟨fun member => ?_, IsPiece.mem_splitOn⟩
  -- What follows the first separator is shorter.
  induction length : items.length using Nat.strongRecOn generalizing items with
  | ind _ inductionHypothesis =>
      by_cases separated : separator ∈ items
      · obtain ⟨before, after, rfl, solid⟩ := List.eq_append_cons_of_mem separated
        rw [List.splitOn_append_cons_self, List.splitOn_eq_singleton solid, List.singleton_append,
          List.mem_cons] at member
        rcases member with rfl | later
        · exact .first solid after
        · have shorter : after.length < (before ++ separator :: after).length := by
            simp only [List.length_append, List.length_cons]
            omega
          exact .later before (inductionHypothesis _ (length ▸ shorter) later rfl)
      · rw [List.splitOn_eq_singleton separated, List.mem_singleton] at member
        rw [member]
        exact .whole separated

end Pieces

section Trimming

/-- The text without the blanks before and after it. -/
inductive Trims : List Char → List Char → Prop
  | intro {front core back : List Char} (blankBefore : AllBlank front) (blankAfter : AllBlank back)
      (head : ∀ character ∈ core.head?, isBlank character = false)
      (last : ∀ character ∈ core.getLast?, isBlank character = false) :
      Trims (front ++ core ++ back) core

theorem dropWhile_append_of_head? {drop : Char → Bool} {front rest : List Char}
    (dropped : ∀ character ∈ front, drop character = true)
    (stays : ∀ character ∈ rest.head?, drop character = false) :
    (front ++ rest).dropWhile drop = rest := by
  rw [List.dropWhile_append_of_pos dropped]
  cases rest with
  | nil => rfl
  | cons first others => rw [List.dropWhile_cons_of_neg (by simp [stays first rfl])]

theorem dropEndWhile_append {drop : Char → Bool} {text back : List Char}
    (dropped : ∀ character ∈ back, drop character = true)
    (stays : ∀ character ∈ text.getLast?, drop character = false) :
    dropEndWhile drop (text ++ back) = text := by
  rw [dropEndWhile, List.reverse_append, dropWhile_append_of_head?, List.reverse_reverse]
  · exact fun character member => dropped character (List.mem_reverse.mp member)
  · rwa [List.head?_reverse]

theorem Trims.trim_eq {text core : List Char} (trims : Trims text core) : trim text = core := by
  cases trims with
  | @intro front core back blankBefore blankAfter head last =>
      cases core with
      | nil =>
          have blank : AllBlank (front ++ [] ++ back) := by
            rw [List.append_nil]
            exact List.forall_mem_append.mpr ⟨blankBefore, blankAfter⟩
          rw [trim, List.dropWhile_eq_nil_iff.mpr blank]
          rfl
      | cons first others =>
          have solid : ∀ character ∈ (first :: others ++ back).head?,
              isBlank character = false := head
          rw [trim, List.append_assoc, dropWhile_append_of_head? blankBefore solid, trimEnd,
            dropEndWhile_append blankAfter last]

/-- What is dropped at the end of a text, and what stays. -/
theorem exists_dropEndWhile (drop : Char → Bool) (text : List Char) :
    ∃ back, text = dropEndWhile drop text ++ back ∧ (∀ character ∈ back, drop character = true)
      ∧ ∀ character ∈ (dropEndWhile drop text).getLast?, drop character = false := by
  refine ⟨(text.reverse.takeWhile drop).reverse, ?_, fun character member => ?_,
    fun character isLast => ?_⟩
  · rw [dropEndWhile, ← List.reverse_append, List.takeWhile_append_dropWhile, List.reverse_reverse]
  · exact List.mem_takeWhile_imp (List.mem_reverse.mp member)
  · rw [dropEndWhile, List.getLast?_reverse] at isLast
    have stays := List.head?_dropWhile_not drop text.reverse
    rw [Option.mem_def.mp isLast] at stays
    simpa using stays

theorem trims_trim (text : List Char) : Trims text (trim text) := by
  obtain ⟨back, split, blankAfter, last⟩ := exists_dropEndWhile isBlank (text.dropWhile isBlank)
  have whole : text.takeWhile isBlank ++ trim text ++ back = text := by
    rw [List.append_assoc, trim, trimEnd, ← split, List.takeWhile_append_dropWhile]
  have head : ∀ character ∈ (trim text).head?, isBlank character = false := by
    intro character isHead
    have stays := List.head?_dropWhile_not isBlank text
    have same : (text.dropWhile isBlank).head? = some character := by
      rw [split, List.head?_append]
      exact congrArg (·.or back.head?) (Option.mem_def.mp isHead)
    rw [same] at stays
    simpa using stays
  have blankBefore : AllBlank (text.takeWhile isBlank) := fun _ => List.mem_takeWhile_imp
  have trims := Trims.intro blankBefore blankAfter head last
  rwa [whole] at trims

/-- Trimming gives exactly the trimmed text. -/
theorem trim_eq_iff {text core : List Char} : trim text = core ↔ Trims text core :=
  ⟨fun eq => eq ▸ trims_trim text, Trims.trim_eq⟩

/-- A blank more before a text is trimmed as well. -/
theorem trim_blank_cons {blank : Char} (isBlank : isBlank blank = true) (text : List Char) :
    trim (blank :: text) = trim text := by
  rw [trim, List.dropWhile_cons_of_pos isBlank, trim]

end Trimming

end AdmissionControl.Text
