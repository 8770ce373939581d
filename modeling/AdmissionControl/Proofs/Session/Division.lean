import AdmissionControl.Session.Basic
import Mathlib.Data.List.Induction

/-!
# Whole lines

Bytes fall into whole lines, each with the line feed that ends it, and what comes after the last of
them. Further bytes leave the whole lines as they are, so a session that has taken the first of them
has taken the first of whatever its peer will have sent.
-/

namespace AdmissionControl

open Wire

/-- Bytes as the whole lines among them, terminators included, and what follows the last one. -/
structure Division where
  lines : List (List UInt8) := []
  rest : List UInt8 := []
deriving DecidableEq

namespace Division

/-- The division after one more byte. -/
def add (division : Division) (byte : UInt8) : Division :=
  if byte = Turn.lineFeed then { lines := division.lines ++ [division.rest ++ [byte]] }
  else { division with rest := division.rest ++ [byte] }

/-- The division of bytes. -/
def of (bytes : List UInt8) : Division := bytes.foldl add {}

theorem of_concat (bytes : List UInt8) (byte : UInt8) :
    of (bytes ++ [byte]) = (of bytes).add byte := List.foldl_append

/-- A line feed completes a line. -/
theorem of_concat_lineFeed (bytes : List UInt8) :
    of (bytes ++ [Turn.lineFeed])
      = { lines := (of bytes).lines ++ [(of bytes).rest ++ [Turn.lineFeed]] } := by
  rw [of_concat, add, if_pos rfl]

/-- Any other byte goes to what follows the last whole line. -/
theorem of_concat_of_ne (bytes : List UInt8) {byte : UInt8} (notFeed : byte ≠ Turn.lineFeed) :
    of (bytes ++ [byte]) = { of bytes with rest := (of bytes).rest ++ [byte] } := by
  rw [of_concat, add, if_neg notFeed]

/-- Bytes without a line feed go to what follows the last whole line. -/
theorem of_append_of_not_mem (bytes : List UInt8) {body : List UInt8}
    (noFeed : Turn.lineFeed ∉ body) :
    of (bytes ++ body) = { of bytes with rest := (of bytes).rest ++ body } := by
  induction body using List.reverseRecOn with
  | nil => rw [List.append_nil, List.append_nil]
  | append_singleton front byte inductionHypothesis =>
      simp only [List.mem_append, List.mem_singleton, not_or] at noFeed
      rw [← List.append_assoc, of_concat_of_ne _ (Ne.symm noFeed.2), inductionHypothesis noFeed.1,
        List.append_assoc]

/-- A line after whole lines alone is one more of them. -/
theorem of_append_line {bytes body : List UInt8} (even : (of bytes).rest = [])
    (noFeed : Turn.lineFeed ∉ body) :
    of (bytes ++ (body ++ [Turn.lineFeed]))
      = { lines := (of bytes).lines ++ [body ++ [Turn.lineFeed]] } := by
  rw [← List.append_assoc, of_concat_lineFeed, of_append_of_not_mem bytes noFeed, even,
    List.nil_append]

/-- There are as many whole lines as line feeds. -/
theorem length_lines (bytes : List UInt8) :
    (of bytes).lines.length = bytes.count Turn.lineFeed := by
  induction bytes using List.reverseRecOn with
  | nil => rfl
  | append_singleton front byte inductionHypothesis =>
      by_cases feed : byte = Turn.lineFeed
      · rw [feed, of_concat_lineFeed, List.length_append, inductionHypothesis, List.count_append]
        rfl
      · rw [of_concat_of_ne front feed, inductionHypothesis, List.count_append,
          List.count_singleton, beq_false_of_ne feed]
        rfl

/-- Nothing is lost or changed by dividing. -/
theorem flatten_lines_append_rest (bytes : List UInt8) :
    (of bytes).lines.flatten ++ (of bytes).rest = bytes := by
  induction bytes using List.reverseRecOn with
  | nil => rfl
  | append_singleton front byte inductionHypothesis =>
      by_cases feed : byte = Turn.lineFeed
      · rw [feed, of_concat_lineFeed]
        simp [← List.append_assoc, inductionHypothesis]
      · rw [of_concat_of_ne front feed, ← List.append_assoc, inductionHypothesis]

theorem lineFeed_not_mem_rest (bytes : List UInt8) : Turn.lineFeed ∉ (of bytes).rest := by
  induction bytes using List.reverseRecOn with
  | nil => exact List.not_mem_nil
  | append_singleton front byte inductionHypothesis =>
      by_cases feed : byte = Turn.lineFeed
      · rw [feed, of_concat_lineFeed]
        exact List.not_mem_nil
      · rw [of_concat_of_ne front feed]
        simpa using ⟨inductionHypothesis, Ne.symm feed⟩

/-- Whole lines stay as they are when more bytes come. -/
theorem lines_isPrefix (bytes more : List UInt8) :
    (of bytes).lines <+: (of (bytes ++ more)).lines := by
  induction more using List.reverseRecOn with
  | nil => simp
  | append_singleton front byte inductionHypothesis =>
      rw [← List.append_assoc]
      refine inductionHypothesis.trans ?_
      by_cases feed : byte = Turn.lineFeed
      · rw [feed, of_concat_lineFeed]
        exact List.prefix_append _ _
      · simp only [of_concat_of_ne _ feed, List.prefix_rfl]

/-- The bytes after the first whole lines, so many of them. -/
def after (bytes : List UInt8) (count : Nat) : List UInt8 :=
  ((of bytes).lines.drop count).flatten ++ (of bytes).rest

theorem flatten_take_lines_append_after (bytes : List UInt8) (count : Nat) :
    ((of bytes).lines.take count).flatten ++ after bytes count = bytes := by
  rw [after, ← List.append_assoc, ← List.flatten_append, List.take_append_drop,
    flatten_lines_append_rest]

/-- After all whole lines comes what follows the last one. -/
theorem after_length_lines (bytes : List UInt8) :
    after bytes (of bytes).lines.length = (of bytes).rest := by
  rw [after, List.drop_length, List.flatten_nil, List.nil_append]

/-- Further bytes come after those that follow the first whole lines. -/
theorem after_append (bytes more : List UInt8) {count : Nat}
    (counted : count ≤ (of bytes).lines.length) :
    after (bytes ++ more) count = after bytes count ++ more := by
  obtain ⟨later, linesEq⟩ := lines_isPrefix bytes more
  have taken : (of (bytes ++ more)).lines.take count = (of bytes).lines.take count := by
    rw [← linesEq, List.take_append_of_le_length counted]
  have same : ((of bytes).lines.take count).flatten ++ after (bytes ++ more) count
      = ((of bytes).lines.take count).flatten ++ (after bytes count ++ more) :=
    calc ((of bytes).lines.take count).flatten ++ after (bytes ++ more) count
        = bytes ++ more := by rw [← taken, flatten_take_lines_append_after]
      _ = ((of bytes).lines.take count).flatten ++ (after bytes count ++ more) := by
          rw [← List.append_assoc, flatten_take_lines_append_after]
  exact List.append_cancel_left same

end Division

end AdmissionControl
