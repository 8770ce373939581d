import AdmissionControl.Text.Numeral

/-!
# Numerals that are written as they are read

A number is written without zeros before its first digit and without a plus sign. A text that reads
as a number is what that number is written as exactly if it is written so itself.
-/

namespace AdmissionControl.Text.Numeral

variable {digits text : List Char}

/-- Digits, with no zero before other ones. -/
structure IsCanonical (digits : List Char) : Prop where
  areDigits : ∀ character ∈ digits, character.isDigit = true
  noZeros : digits = ['0'] ∨ ∃ first rest, digits = first :: rest ∧ first ≠ '0'

/-- The same after a minus sign, which does not stand before zero. -/
def IsCanonicalInt : List Char → Prop
  | '-' :: digits => IsCanonical digits ∧ digits ≠ ['0']
  | digits => IsCanonical digits

section Digits

/-- A digit is what its value is written as. -/
theorem write_of_isDigit {character : Char} (isDigit : character.isDigit = true) :
    write (character.toNat - 48) = [character] := by
  obtain ⟨least, greatest⟩ := Char.isDigit_iff_toNat.mp isDigit
  have bound : character.toNat - 48 < 10 := by
    change character.toNat ≤ 57 at greatest
    omega
  have written : ∀ number < 10, Nat.digitChar number = Char.ofNat (48 + number) := by decide
  have whole : 48 + (character.toNat - 48) = character.toNat := Nat.add_sub_cancel' least
  rw [write, Nat.toDigits_of_lt_base bound, written _ bound, whole, Char.ofNat_toNat]

/-- Digits after a positive number are written after it. -/
theorem write_ofDigitChars {number : Nat} (positive : 0 < number)
    (areDigits : ∀ character ∈ digits, character.isDigit = true) :
    write (Nat.ofDigitChars 10 digits number) = write number ++ digits := by
  induction digits generalizing number with
  | nil => simp
  | cons first rest inductionHypothesis =>
      have isDigit := areDigits first List.mem_cons_self
      obtain ⟨_, greatest⟩ := Char.isDigit_iff_toNat.mp isDigit
      have bound : first.toNat - 48 < 10 := by
        change first.toNat ≤ 57 at greatest
        omega
      have written : write (10 * number + (first.toNat - 48)) = write number ++ [first] := by
        rw [← write_of_isDigit isDigit]
        exact (Nat.toDigits_append_toDigits (by decide) positive bound).symm
      rw [Nat.ofDigitChars_cons]
      change write (Nat.ofDigitChars 10 rest (10 * number + (first.toNat - 48))) = _
      rw [inductionHypothesis (by omega)
          fun character member => areDigits character (List.mem_cons_of_mem _ member),
        written, List.append_assoc, List.singleton_append]

/-- Digits that begin with another one than zero denote a positive number, which is written so. -/
theorem write_ofDigitChars_cons {first : Char} {rest : List Char} (notZero : first ≠ '0')
    (areDigits : ∀ character ∈ first :: rest, character.isDigit = true) :
    0 < Nat.ofDigitChars 10 (first :: rest) 0
      ∧ write (Nat.ofDigitChars 10 (first :: rest) 0) = first :: rest := by
  have isDigit := areDigits first List.mem_cons_self
  have positive : 0 < first.toNat - 48 := by
    obtain ⟨least, _⟩ := Char.isDigit_iff_toNat.mp isDigit
    refine Nat.pos_of_ne_zero fun isZero => notZero ?_
    change 48 ≤ first.toNat at least
    have same : first.toNat = '0'.toNat := by
      change first.toNat = 48
      omega
    exact Char.toNat_inj.mp same
  have denoted : Nat.ofDigitChars 10 (first :: rest) 0
      = Nat.ofDigitChars 10 rest (first.toNat - 48) := by
    rw [Nat.ofDigitChars_cons, Nat.mul_zero, Nat.zero_add]
    rfl
  have written := write_ofDigitChars positive
    fun character member => areDigits character (List.mem_cons_of_mem first member)
  rw [write_of_isDigit isDigit, List.singleton_append] at written
  rw [denoted, written]
  refine ⟨Nat.pos_of_ne_zero fun isZero => ?_, rfl⟩
  rw [isZero] at written
  exact notZero (List.cons.inj (written.symm.trans (Nat.toDigits_zero 10))).1

/-- A positive number is written with no zero first. -/
theorem exists_write_eq_cons {number : Nat} (positive : 0 < number) :
    ∃ first rest, write number = first :: rest ∧ first ≠ '0' := by
  induction number using Nat.strongRecOn with
  | ind number inductionHypothesis =>
      by_cases short : number < 10
      · refine ⟨number.digitChar, [], Nat.toDigits_of_lt_base short, fun isZero => ?_⟩
        rw [Nat.digitChar_eq_zero] at isZero
        omega
      · obtain ⟨first, rest, eq, notZero⟩ :=
          inductionHypothesis (number / 10) (by omega) (by omega)
        rw [write] at eq
        rw [write, Nat.toDigits_of_base_le (by decide) (Nat.not_lt.mp short), eq]
        exact ⟨first, _, rfl, notZero⟩

theorem isCanonical_write (number : Nat) : IsCanonical (write number) where
  areDigits _ member := Nat.isDigit_of_mem_toDigits (by decide) (by decide) member
  noZeros := by
    rcases Nat.eq_zero_or_pos number with rfl | positive
    · exact .inl (Nat.toDigits_zero 10)
    · exact .inr (exists_write_eq_cons positive)

/-- Digits are what their number is written as, exactly if no zero stands before other ones. -/
theorem write_ofDigitChars_eq_iff (areDigits : ∀ character ∈ digits, character.isDigit = true) :
    write (Nat.ofDigitChars 10 digits 0) = digits ↔ IsCanonical digits := by
  constructor
  · intro written
    rw [← written]
    exact isCanonical_write _
  · rintro ⟨_, rfl | ⟨first, rest, rfl, notZero⟩⟩
    · decide
    · exact (write_ofDigitChars_cons notZero areDigits).2

end Digits

section Texts

theorem readDigits?_eq_some {number : Nat} (read : readDigits? digits = some number) :
    digits ≠ [] ∧ (∀ character ∈ digits, character.isDigit = true)
      ∧ number = Nat.ofDigitChars 10 digits 0 := by
  unfold readDigits? at read
  split at read
  · cases read
  · next readable =>
    simp only [Bool.or_eq_true, not_or, Bool.not_eq_true, Bool.not_eq_false', List.all_eq_true,
      List.isEmpty_eq_false_iff] at readable
    exact ⟨readable.1, readable.2, (Option.some.inj read).symm⟩

/-- So it is after a minus sign, but zero is written without one. -/
theorem writeInt_neg_eq_iff (areDigits : ∀ character ∈ digits, character.isDigit = true) :
    writeInt (-(Nat.ofDigitChars 10 digits 0 : Int)) = '-' :: digits
      ↔ IsCanonicalInt ('-' :: digits) := by
  change _ ↔ IsCanonical digits ∧ digits ≠ ['0']
  rw [← write_ofDigitChars_eq_iff areDigits]
  rcases Nat.eq_zero_or_pos (Nat.ofDigitChars 10 digits 0) with isZero | positive
  · have unsigned : writeInt (-((0 : Nat) : Int)) = ['0'] := by decide
    rw [isZero, unsigned]
    constructor
    · intro same
      cases same
    · rintro ⟨written, notZero⟩
      exact absurd written.symm notZero
  · have signed : writeInt (-(Nat.ofDigitChars 10 digits 0 : Int))
        = '-' :: write (Nat.ofDigitChars 10 digits 0) := by
      rw [writeInt, if_pos (by omega), Int.natAbs_neg, Int.natAbs_natCast]
    rw [signed, List.cons.injEq, eq_self_iff_true, true_and]
    refine ⟨fun written => ⟨written, ?_⟩, And.left⟩
    rintro rfl
    exact absurd positive (by decide)

/-- A text that reads as a signed number is what that number is written as, exactly if it is written
so itself. -/
theorem writeInt_eq_iff {number : Int} (read : readInt64? text = some number) :
    writeInt number = text ↔ IsCanonicalInt text := by
  unfold readInt64? at read
  split at read
  · next digits =>
    split at read
    · next readMagnitude =>
      obtain ⟨_, areDigits, rfl⟩ := readDigits?_eq_some readMagnitude
      split at read
      · rw [← Option.some.inj read]
        exact writeInt_neg_eq_iff areDigits
      · cases read
    · cases read
  · next notNegative =>
    obtain ⟨magnitude, readMagnitude, rfl⟩ := Option.map_eq_some_iff.mp read
    have unsigned : writeInt (Int.ofNat magnitude) = write magnitude := rfl
    have canonical : IsCanonicalInt text ↔ IsCanonical text := by
      unfold IsCanonicalInt
      split
      · exact absurd rfl (notNegative _)
      · exact Iff.rfl
    rw [unsigned, canonical]
    unfold readBelow? at readMagnitude
    split at readMagnitude
    · next readText =>
      split at readMagnitude
      · obtain rfl := Option.some.inj readMagnitude
        unfold read? at readText
        split at readText
        · next digits =>
          -- A plus sign is no digit.
          have noDigit : '+'.isDigit = true → False := by decide
          have notCanonical : ¬ IsCanonical ('+' :: digits) := fun isCanonical =>
            noDigit (isCanonical.areDigits '+' List.mem_cons_self)
          refine ⟨fun written => ?_, fun isCanonical => absurd isCanonical notCanonical⟩
          rw [← written]
          exact isCanonical_write _
        · obtain ⟨_, areDigits, rfl⟩ := readDigits?_eq_some readText
          exact write_ofDigitChars_eq_iff areDigits
      · cases readMagnitude
    · cases readMagnitude

end Texts

end AdmissionControl.Text.Numeral
