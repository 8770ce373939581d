import AdmissionControl.Settings.Path

/-!
# Keys that are names joined by points

A key leads into a tree by its first name, whatever it looks like. Names joined by points lead
through tables, one name after another, and no other key leads there.
-/

namespace AdmissionControl.Tree.Path

open Text

variable {names : List (List Char)}

/-- A name that can stand in a path. -/
def IsName (name : List Char) : Prop :=
  name ≠ [] ∧ ∀ character ∈ name, isNameCharacter character = true

instance (name : List Char) : Decidable (IsName name) :=
  decidable_of_iff (name ≠ [] ∧ name.all isNameCharacter = true) (by rw [IsName, List.all_eq_true])

/-- Names with their marks. -/
def mark (names : List (List Char)) : List Char := names.flatMap ('.' :: ·)

theorem mark_cons (name : List Char) (rest : List (List Char)) :
    mark (name :: rest) = '.' :: (name ++ mark rest) := rfl

theorem mark_eq_nil_or_cons (names : List (List Char)) :
    mark names = [] ∨ ∃ rest, mark names = '.' :: rest := by
  cases names with
  | nil => exact .inl rfl
  | cons name rest => exact .inr ⟨_, mark_cons name rest⟩

/-- A name ends where the next mark stands. -/
theorem span_name {name : List Char} (isName : IsName name) (rest : List (List Char)) :
    (name ++ mark rest).takeWhile isNameCharacter = name
      ∧ (name ++ mark rest).dropWhile isNameCharacter = mark rest := by
  have stops : (mark rest).takeWhile isNameCharacter = []
      ∧ (mark rest).dropWhile isNameCharacter = mark rest := by
    rcases mark_eq_nil_or_cons rest with eq | ⟨more, eq⟩ <;> rw [eq]
    · exact ⟨rfl, rfl⟩
    · have notInName : isNameCharacter '.' = false := by decide
      simp [notInName]
  rw [List.takeWhile_append_of_pos isName.2, List.dropWhile_append_of_pos isName.2, stops.1,
    stops.2, List.append_nil]
  exact ⟨rfl, rfl⟩

/-- Names with their marks are read as the steps that they name. -/
theorem readSteps?_mark (areNames : ∀ name ∈ names, IsName name) {fuel : Nat}
    (enough : (mark names).length ≤ fuel) :
    readSteps? fuel (mark names) = some (names.map .key) := by
  induction names generalizing fuel with
  | nil => cases fuel <;> rfl
  | cons name rest inductionHypothesis =>
      have isName := areNames name List.mem_cons_self
      obtain ⟨taken, dropped⟩ := span_name isName rest
      rw [mark_cons] at enough ⊢
      cases fuel with
      | zero => simp at enough
      | succ fuel =>
          have enoughRest : (mark rest).length ≤ fuel := by
            simp only [List.length_cons, List.length_append] at enough
            omega
          have readRest := inductionHypothesis
            (fun other member => areNames other (List.mem_cons_of_mem _ member)) enoughRest
          rw [readSteps?, if_pos rfl, taken, dropped, readRest]
          split
          · exact absurd rfl isName.1
          · rfl

/-- Only such names are read as steps to keys. -/
theorem eq_mark_of_readSteps? {fuel : Nat} {text : List Char}
    (read : readSteps? fuel text = some (names.map .key)) : text = mark names := by
  induction names generalizing fuel text with
  | nil =>
      unfold readSteps? at read
      split at read
      · rfl
      · cases read
      · split at read
        · split at read <;> simp at read
        · split at read
          · simp only [Option.bind_eq_bind, Option.bind_eq_some_iff] at read
            obtain ⟨_, _, _, _, _, _, eq⟩ := read
            cases eq
          · cases read
  | cons name rest inductionHypothesis =>
      unfold readSteps? at read
      split at read
      · cases read
      · cases read
      · next fuel first after =>
        split at read
        · next isPoint =>
          subst isPoint
          have divided := after.takeWhile_append_dropWhile (p := isNameCharacter)
          split at read
          · cases read
          · simp only [Option.map_eq_some_iff, List.map_cons, List.cons.injEq, Step.key.injEq]
              at read
            obtain ⟨steps, readRest, rfl, rfl⟩ := read
            rw [mark_cons, ← inductionHypothesis readRest, divided]
        · split at read
          · simp only [Option.bind_eq_bind, Option.bind_eq_some_iff] at read
            obtain ⟨_, _, _, _, _, _, eq⟩ := read
            cases eq
          · cases read

/-- The keys that lead through tables by names are these names joined by points. -/
theorem ofKey_eq_iff {name : List Char} {rest : List (List Char)}
    (areNames : ∀ other ∈ name :: rest, IsName other) (key : List Char) :
    ofKey key = (name :: rest).map .key ↔ key = name ++ mark rest := by
  constructor
  · intro eq
    cases read : readSteps? (key.length + 1) ('.' :: key) with
    | none =>
        rw [ofKey, read] at eq
        simp at eq
        obtain ⟨rfl, rfl⟩ := eq
        simp [mark]
    | some steps =>
        rw [ofKey, read, Option.getD_some] at eq
        rw [eq] at read
        exact (List.cons.inj (eq_mark_of_readSteps? read)).2
  · rintro rfl
    have read := readSteps?_mark areNames (Nat.le_refl _)
    rw [mark_cons, List.length_cons] at read
    rw [ofKey, read, Option.getD_some]

end AdmissionControl.Tree.Path
