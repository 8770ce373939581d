/-!
# Blanks and pieces of text

Blank characters are those with the Unicode property `White_Space`. Tokens are the nonempty runs
between blanks, so any change of blanks around or between tokens leaves them alone.
-/

namespace AdmissionControl.Text

/-- The ranges of the property `White_Space`. -/
def blankRanges : List (Nat × Nat) :=
  [(0x09, 0x0d), (0x20, 0x20), (0x85, 0x85), (0xa0, 0xa0), (0x1680, 0x1680), (0x2000, 0x200a),
    (0x2028, 0x2029), (0x202f, 0x202f), (0x205f, 0x205f), (0x3000, 0x3000)]

/-- Whether a character is blank. -/
def isBlank (character : Char) : Bool :=
  blankRanges.any fun range => range.1 ≤ character.toNat && character.toNat ≤ range.2

/-- The nonempty runs of characters between blanks, in order. -/
def tokens (line : List Char) : List (List Char) :=
  (line.splitOnP isBlank).filter fun token => !token.isEmpty

/-- The text without characters at its end that satisfy `drop`. -/
def dropEndWhile (drop : Char → Bool) (text : List Char) : List Char :=
  (text.reverse.dropWhile drop).reverse

/-- The text without blanks at its end. -/
def trimEnd (text : List Char) : List Char := dropEndWhile isBlank text

/-- The text without blanks at either end. -/
def trim (text : List Char) : List Char := trimEnd (text.dropWhile isBlank)

/-- What stands before and after the first separator, if there is one. -/
def cut? {α : Type} [DecidableEq α] (separator : α) : List α → Option (List α × List α)
  | [] => none
  | item :: rest =>
      if item = separator then some ([], rest)
      else (cut? separator rest).map fun sides => (item :: sides.1, sides.2)

end AdmissionControl.Text
