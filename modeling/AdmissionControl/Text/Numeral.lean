import AdmissionControl.Power

/-!
# Decimal numerals

Whole numbers are written without leading zeros and read back with any number of them. A reader
takes the whole text: one optional sign, then at least one of the ten ASCII digits.
-/

namespace AdmissionControl.Text.Numeral

/-- The decimal digits of a number, most significant first. -/
def write (number : Nat) : List Char := Nat.toDigits 10 number

/-- The digits of a whole number after its sign, if it is negative. -/
def writeInt (number : Int) : List Char :=
  if number < 0 then '-' :: write number.natAbs else write number.natAbs

/-- The number that a nonempty run of digits denotes. -/
def readDigits? (text : List Char) : Option Nat :=
  if text.isEmpty || !text.all Char.isDigit then none else some (Nat.ofDigitChars 10 text 0)

/-- The number that digits after at most one plus sign denote. -/
def read? : List Char → Option Nat
  | '+' :: digits => readDigits? digits
  | digits => readDigits? digits

/-- The number that a text denotes, if it lies below `bound`. -/
def readBelow? (bound : Nat) (text : List Char) : Option Nat :=
  match read? text with
  | some number => if number < bound then some number else none
  | none => none

/-- The signed number that a text denotes, if it fits in sixty-four bits. -/
def readInt64? : List Char → Option Int
  | '-' :: digits =>
      match readDigits? digits with
      | some number => if number ≤ 2 ^ 63 then some (-(number : Int)) else none
      | none => none
  | text => (readBelow? (2 ^ 63) text).map Int.ofNat

theorem write_ne_nil (number : Nat) : write number ≠ [] :=
  List.ne_nil_of_length_pos Nat.length_toDigits_pos

/-- Reading undoes writing. -/
theorem readDigits?_write (number : Nat) : readDigits? (write number) = some number := by
  have digits : (write number).all Char.isDigit = true := by
    rw [List.all_eq_true]
    intro character member
    exact Nat.isDigit_of_mem_toDigits (by decide) (by decide) member
  have nonempty : (write number).isEmpty = false := by
    simpa using write_ne_nil number
  simp only [readDigits?, nonempty, digits, Bool.not_true, Bool.or_false]
  exact congrArg some (Nat.ofDigitChars_toDigits (by decide) (by decide))

end AdmissionControl.Text.Numeral
