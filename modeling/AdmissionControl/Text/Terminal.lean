/-!
# Text for terminals

A terminal takes some sequences of characters as orders and shows nothing for them. What is left of
a text without these sequences and without control characters is what a reader sees. Of the control
characters only those that separate words and lines are kept.
-/

namespace AdmissionControl.Text

namespace Terminal

/-- What a terminal is in the middle of. -/
inductive State where
  | ground
  /-- The character that begins an order has come. -/
  | escape
  /-- An order has begun that one more character ends. -/
  | order
  /-- An order with numbers has begun. -/
  | control
  /-- An order to the device has begun, which a text follows. -/
  | device
  /-- A text that no one reads. -/
  | skipped
  /-- A text for the program of the terminal. -/
  | system
deriving DecidableEq

/-- Whether a character separates words or lines. -/
def isSeparator (character : Char) : Bool :=
  character = ' ' || character = '\t' || character = '\n' || character = '\x0c' || character = '\r'

/-- Whether a character lies between two others. -/
def isWithin (first last character : Char) : Bool := first ≤ character && character ≤ last

/-- The byte that ends a text no one reads, wherever it stands. -/
def textEnd : UInt8 := 0x9c

/-- The state after a character that the terminal does not show. -/
def next (state : State) (character : Char) : State :=
  match state with
  | .ground => .ground
  | .escape =>
      if isWithin ' ' '/' character then .order
      else if character = '[' then .control
      else if character = ']' then .system
      else if character = 'P' then .device
      else if character = 'X' || character = '^' || character = '_' then .skipped
      else if isWithin '0' '~' character then .ground
      else .escape
  | .order => if isWithin '0' '~' character then .ground else .order
  | .control => if isWithin '@' '~' character then .ground else .control
  | .device => if isWithin '@' '~' character then .skipped else .device
  | .skipped =>
      if (String.utf8EncodeChar character).contains textEnd then .ground else .skipped
  | .system => if character = '\x07' then .ground else .system

/-- Whether a separator takes effect in a state, even in the middle of an order. -/
def isInterruptible : State → Bool
  | .ground | .escape | .order | .control => true
  | .device | .skipped | .system => false

/-- Whether a terminal shows a character, or moves on for it. -/
def shows (state : State) (character : Char) : Bool :=
  if character < ' ' then isInterruptible state && isSeparator character
  else state = .ground && character != '\x7f'

/-- What is seen of a text from a state on. -/
def seenFrom : State → List Char → List Char
  | _, [] => []
  | state, character :: rest =>
      if character = '\x1b' then seenFrom .escape rest
      else if character = '\x18' || character = '\x1a' then seenFrom .ground rest
      else if shows state character then character :: seenFrom .ground rest
      else seenFrom (next state character) rest

end Terminal

/-- What a reader sees of a text. -/
def seen (text : List Char) : List Char := Terminal.seenFrom .ground text

/-- A text without control characters is seen as it is. -/
theorem seen_eq_self {text : List Char}
    (plain : ∀ character ∈ text, ¬ character < ' ' ∧ character ≠ '\x7f') : seen text = text := by
  unfold seen
  induction text with
  | nil => rfl
  | cons character rest inductionHypothesis =>
      have ⟨notControl, notDelete⟩ := plain character List.mem_cons_self
      have notEscape : character ≠ '\x1b' := by
        rintro rfl
        exact notControl (by decide)
      have notCancel : ¬ (character = '\x18' ∨ character = '\x1a') := by
        rintro (rfl | rfl) <;> exact notControl (by decide)
      have shown : Terminal.shows .ground character = true := by
        simp [Terminal.shows, notControl, notDelete]
      rw [Terminal.seenFrom, if_neg notEscape, if_neg (by simpa using notCancel), if_pos shown,
        inductionHypothesis fun other member => plain other (List.mem_cons_of_mem _ member)]

end AdmissionControl.Text
