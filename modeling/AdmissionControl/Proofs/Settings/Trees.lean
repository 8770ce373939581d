import AdmissionControl.Settings.Tree

/-!
# Looking up entries in a changed tree

A change at a key is seen under that key only. Entries that are laid over a table, no two of which
have one key, each meet the former entry of their key and leave all others.
-/

namespace AdmissionControl

open Text

namespace Tree

variable {change : Option Tree → Tree} {name other : List Char}

/-- The entry of a key. Only tables have entries. -/
def child? (tree : Option Tree) (name : List Char) : Option Tree := (asTable tree).1.lookup name

@[simp] theorem child?_none (name : List Char) : child? none name = none := rfl

@[simp] theorem child?_table (entries : List (List Char × Tree)) (origin : Option Origin)
    (name : List Char) : child? (some (.table entries origin)) name = entries.lookup name := rfl

/-- Whether a tree is a table. -/
def isTable : Tree → Bool
  | .table _ _ => true
  | _ => false

theorem exists_of_isTable {tree : Tree} (isTable : tree.isTable = true) :
    ∃ entries origin, tree = .table entries origin := by
  cases tree with
  | table entries origin => exact ⟨entries, origin, rfl⟩
  | scalar | list => cases isTable

theorem child?_of_leaf {tree : Tree} (leaf : tree.isTable = false) (name : List Char) :
    child? (some tree) name = none := by
  cases tree with
  | table => cases leaf
  | scalar | list => rfl

/-- What stands at the end of names. -/
def at? (tree : Option Tree) (names : List (List Char)) : Option Tree := names.foldl child? tree

@[simp] theorem at?_nil (tree : Option Tree) : at? tree [] = tree := rfl

@[simp] theorem at?_cons (tree : Option Tree) (name : List Char) (rest : List (List Char)) :
    at? tree (name :: rest) = at? (child? tree name) rest := rfl

theorem at?_append (tree : Option Tree) (names below : List (List Char)) :
    at? tree (names ++ below) = at? (at? tree names) below := List.foldl_append

theorem at?_none (names : List (List Char)) : at? none names = none := by
  induction names with
  | nil => rfl
  | cons name rest inductionHypothesis => exact inductionHypothesis

/-- Nothing stands below what is no table. -/
theorem at?_of_leaf {tree : Tree} (leaf : tree.isTable = false) {names : List (List Char)}
    (below : names ≠ []) : at? (some tree) names = none := by
  cases names with
  | nil => exact absurd rfl below
  | cons name rest => rw [at?_cons, child?_of_leaf leaf, at?_none]

section Change

theorem lookup_changeEntry_self (change : Option Tree → Tree) (name : List Char)
    (entries : List (List Char × Tree)) :
    (changeEntry change name entries).lookup name = some (change (entries.lookup name)) := by
  induction entries with
  | nil => simp [changeEntry]
  | cons entry rest inductionHypothesis =>
      obtain ⟨key, value⟩ := entry
      by_cases here : key = name
      · subst here
        simp [changeEntry]
      · have apart : (name == key) = false := by simp [Ne.symm here]
        simp only [changeEntry, if_neg here, List.lookup_cons, apart, inductionHypothesis]

theorem lookup_changeEntry_of_ne (different : other ≠ name) (entries : List (List Char × Tree)) :
    (changeEntry change name entries).lookup other = entries.lookup other := by
  induction entries with
  | nil => simp [changeEntry, different]
  | cons entry rest inductionHypothesis =>
      obtain ⟨key, value⟩ := entry
      by_cases here : key = name
      · subst here
        have apart : (other == key) = false := by simp [different]
        simp only [changeEntry, if_true, List.lookup_cons, apart]
      · simp only [changeEntry, if_neg here, List.lookup_cons, inductionHypothesis]

/-- A change below a key changes its entry. -/
theorem child?_changeAt_self (change : Option Tree → Tree) (name : List Char) (rest : Path)
    (tree : Option Tree) :
    child? (some (changeAt change (.key name :: rest) tree)) name
      = some (changeAt change rest (child? tree name)) :=
  lookup_changeEntry_self _ name _

/-- And no other one. -/
theorem child?_changeAt_of_ne (different : other ≠ name) (rest : Path) (tree : Option Tree) :
    child? (some (changeAt change (.key name :: rest) tree)) other = child? tree other :=
  lookup_changeEntry_of_ne different _

/-- What stands at the end of a changed path, and below it. -/
theorem at?_changeAt_self (change : Option Tree → Tree) (names below : List (List Char))
    (tree : Option Tree) :
    at? (some (changeAt change (names.map .key) tree)) (names ++ below)
      = at? (some (change (at? tree names))) below := by
  induction names generalizing tree with
  | nil => rfl
  | cons name rest inductionHypothesis =>
      rw [List.map_cons, List.cons_append, at?_cons, child?_changeAt_self, inductionHypothesis,
        at?_cons]

/-- Tables stand on the way there. -/
theorem exists_at?_changeAt (change : Option Tree → Tree) {names below : List (List Char)}
    (more : below ≠ []) (tree : Option Tree) :
    ∃ entries origin, at? (some (changeAt change ((names ++ below).map .key) tree)) names
      = some (.table entries origin) := by
  induction names generalizing tree with
  | nil =>
      obtain ⟨name, rest, rfl⟩ := List.exists_cons_of_ne_nil more
      exact ⟨_, _, rfl⟩
  | cons name rest inductionHypothesis =>
      rw [List.cons_append, List.map_cons, at?_cons, child?_changeAt_self]
      exact inductionHypothesis _

/-- Elsewhere nothing changes. -/
theorem at?_changeAt_of_apart {names elsewhere : List (List Char)}
    (notBelow : ¬ names <+: elsewhere) (notBefore : ¬ elsewhere <+: names) (tree : Option Tree) :
    at? (some (changeAt change (names.map .key) tree)) elsewhere = at? tree elsewhere := by
  induction names generalizing elsewhere tree with
  | nil => exact absurd (List.nil_prefix) notBelow
  | cons name rest inductionHypothesis =>
      cases elsewhere with
      | nil => exact absurd (List.nil_prefix) notBefore
      | cons other more =>
          rw [List.map_cons, at?_cons, at?_cons]
          by_cases here : other = name
          · subst here
            rw [List.prefix_cons_inj] at notBelow notBefore
            rw [child?_changeAt_self, inductionHypothesis notBelow notBefore]
          · rw [child?_changeAt_of_ne here]

end Change

section Overlay

theorem overlay_scalar (base : Option Tree) (value : Scalar) (origin : Option Origin) :
    overlay base (.scalar value origin) = .scalar value origin := by simp [overlay]

theorem overlay_list (base : Option Tree) (items : List Tree) (origin : Option Origin) :
    overlay base (.list items origin) = .list items origin := by simp [overlay]

/-- The value of the entry that has a key in any case. -/
def named? (entries : List (List Char × Tree)) (name : List Char) : Option Tree :=
  (entries.find? fun entry => lowerCase entry.1 = name).map (·.2)

/-- Keys that stay different in lower case. -/
def AreDistinct (entries : List (List Char × Tree)) : Prop :=
  (entries.map fun entry => lowerCase entry.1).Nodup

theorem named?_cons_self (key : List Char) (value : Tree) (rest : List (List Char × Tree)) :
    named? ((key, value) :: rest) (lowerCase key) = some value := by simp [named?]

theorem named?_cons_of_ne {key : List Char} (different : lowerCase key ≠ name) (value : Tree)
    (rest : List (List Char × Tree)) : named? ((key, value) :: rest) name = named? rest name := by
  simp [named?, different]

theorem named?_eq_none {entries : List (List Char × Tree)}
    (missing : name ∉ entries.map fun entry => lowerCase entry.1) : named? entries name = none := by
  rw [named?, Option.map_eq_none_iff, List.find?_eq_none]
  intro entry member isNamed
  exact missing (List.mem_map.mpr ⟨entry, member, of_decide_eq_true isNamed⟩)

/-- The entry of a key after another table has been laid over: what that one names is laid over the
former entry, and all else stays. -/
theorem lookup_overlayEntries {entries : List (List Char × Tree)} (distinct : AreDistinct entries)
    (base : List (List Char × Tree)) (name : List Char) :
    (overlayEntries base entries).lookup name
      = match named? entries name with
        | some value => some (overlay (base.lookup name) value)
        | none => base.lookup name := by
  induction entries generalizing base with
  | nil => simp [overlayEntries, named?]
  | cons entry rest inductionHypothesis =>
      obtain ⟨key, value⟩ := entry
      obtain ⟨fresh, distinctRest⟩ := List.nodup_cons.mp distinct
      rw [overlayEntries, inductionHypothesis distinctRest]
      by_cases here : lowerCase key = name
      · subst here
        rw [named?_eq_none fresh, named?_cons_self, lookup_changeEntry_self]
      · rw [named?_cons_of_ne here, lookup_changeEntry_of_ne (Ne.symm here)]

/-- A table that is laid over nothing has its entries, under their keys in lower case. -/
theorem child?_overlay_none {entries : List (List Char × Tree)} (distinct : AreDistinct entries)
    (origin : Option Origin) (name : List Char) :
    child? (some (overlay none (.table entries origin))) name
      = (named? entries name).map (overlay none) := by
  rw [overlay]
  cases entries with
  | nil => simp [named?, child?, asTable]
  | cons entry rest =>
      simp only [List.isEmpty_cons, Bool.false_eq_true, if_false, asTable, child?_table]
      rw [lookup_overlayEntries distinct]
      cases named? (entry :: rest) name <;> rfl

end Overlay

end Tree

end AdmissionControl
