import AdmissionControl.Proofs.Settings.Documented

/-!
# Settings from two layers

The environment is merged into what the sources before it give, key by key. So each setting is
combined for itself: it has what the environment gives to it, and else what it had before.
-/

namespace AdmissionControl

open Text

namespace Tree

variable {earlier merged : Option Tree} {later : Tree}

theorem Merges.eq_of_none (merges : Merges earlier none merged) : merged = earlier := by
  cases merges
  rfl

theorem Merges.exists_of_table {entries : List (List Char × Tree)} {origin : Option Origin}
    (merges : Merges earlier (some (.table entries origin)) merged) :
    ∃ mergedEntries originMerged, merged = some (.table mergedEntries originMerged)
      ∧ ∀ name, Merges (child? earlier name) (entries.lookup name) (mergedEntries.lookup name) := by
  cases merges with
  | replaces _ leaf => cases leaf
  | descends _ originMerged merges => exact ⟨_, originMerged, rfl, merges⟩

end Tree

namespace Setting

open Settings

variable {setting : Setting}

/-- Groups in a place of settings are groups. -/
theorem group_mem {group : String} (stands : setting.place.group? = some group) :
    group ∈ groups := by
  cases setting <;> simp_all [place, groups]

/-- An empty group gives nothing, and neither does what is no table. -/
theorem child?_groupOf (name : List Char) (tree : Tree) (group : String) :
    Tree.child? (some (groupOf tree group)) name
      = Tree.child? (Tree.child? (some tree) group.toList) name := by
  unfold groupOf
  cases Tree.child? (some tree) group.toList <;> rfl

/-- What earlier sources give to a setting under the environment. A list of values in order gives
way when something in its group is set by name. -/
def base (setting : Setting) (before later : Tree) : Option Tree :=
  match setting.place.group? with
  | none => setting.inTree? before
  | some group =>
      if isInOrder (groupOf before group)
          && (Tree.child? (some later) group.toList).isSome then none
      else setting.inTree? before

/-- What a setting has: what the environment gives to it, or else what it had before. -/
def combined (setting : Setting) (before later : Tree) : Option Tree :=
  (Tree.at? (some later) setting.names).or (setting.base before later)

theorem inTree?_of_alone (alone : setting.place.group? = none) (tree : Tree) :
    setting.inTree? tree = setting.inGroup? tree := by
  rw [inTree?, alone]

theorem inTree?_of_group {group : String} (stands : setting.place.group? = some group)
    (tree : Tree) : setting.inTree? tree = setting.inGroup? (groupOf tree group) := by
  rw [inTree?, stands]

/-- Below something that is set by name in its group, a setting has what stands under its name. -/
theorem base_of_set {group : String} (stands : setting.place.group? = some group)
    {before later : Tree} (set : (Tree.child? (some later) group.toList).isSome = true) :
    setting.base before later
      = Tree.child? (Tree.child? (some before) group.toList) setting.place.name.toList := by
  rw [base, stands]
  dsimp only
  rw [set, Bool.and_true, ← child?_groupOf, inTree?_of_group stands]
  cases inOrder : isInOrder (groupOf before group) with
  | false => exact inGroup?_of_not_inOrder setting inOrder
  | true =>
      cases list : groupOf before group with
      | list => rfl
      | scalar | table =>
          rw [list] at inOrder
          cases inOrder

/-- Below nothing that is set in its group, a setting has what it had. -/
theorem base_of_unset {group : String} (stands : setting.place.group? = some group)
    {before later : Tree} (unset : Tree.child? (some later) group.toList = none) :
    setting.base before later = setting.inGroup? (groupOf before group) := by
  rw [base, stands]
  dsimp only
  rw [unset, Option.isSome_none, Bool.and_false, if_neg Bool.false_ne_true,
    inTree?_of_group stands]

section Takes

variable {library : Library} (converts : library.Converts) {usual settings : Settings}
include converts

/-- No setting takes a table. -/
theorem not_takes_table {tree : Tree} (isTable : tree.isTable = true) :
    ¬ setting.Takes library usual settings (some tree) := by
  have noTable : tree.isTable ≠ false := by simp [isTable]
  intro takes
  cases setting with
  | enabled => exact noTable (converts.flagNoTable _ _ takes)
  | workers | targetMilliseconds | drainMilliseconds | lineLimit | connectMilliseconds
  | retryAfterSeconds | warnSeconds => exact noTable (converts.word64NoTable _ _ takes)
  | step => exact noTable (converts.word32NoTable _ _ takes)
  | decrease => exact noTable (converts.realNoTable _ _ takes)
  | socketPath | authCookie => exact noTable (converts.textNoTable _ _ takes)
  | unsampledPrefixes => exact noTable (converts.textsNoTable _ _ takes)

/-- What a setting takes of two layers is the later one, if that gives something. -/
theorem takes_merges {earlier later merged : Option Tree}
    (merges : Tree.Merges earlier later merged) :
    setting.Takes library usual settings merged
      ↔ setting.Takes library usual settings (later.or earlier) := by
  cases merges with
  | keeps => rfl
  | replaces => rfl
  | descends =>
      exact iff_of_false (not_takes_table converts rfl) (not_takes_table converts rfl)

end Takes

end Setting

namespace Settings

open Setting

/-- A group as two layers make it. -/
def groupOfBoth (before later : Tree) (group : String) : Tree :=
  (Tree.child? (some later) group.toList).getD (groupOf before group)

theorem namesOf?_ne_nil {name : List Char} {names : List (List Char)}
    (spelled : namesOf? name = some names) : names ≠ [] := by
  obtain ⟨key, _, rfl⟩ := Option.map_eq_some_iff.mp spelled
  exact List.splitOn_ne_nil _ _

namespace Library.Merges

variable {library : Library} {sources : List Source} {environment : List (List Char × List Char)}
variable (merging : library.Merges sources environment)
include merging

/-- The tree of the environment is a table. -/
theorem isTable_environmentTree : (library.environmentTree environment).isTable = true := by
  cases isTable : (library.environmentTree environment).isTable with
  | true => rfl
  | false =>
      obtain ⟨_, _, spelled, _⟩ := merging.value [] _ rfl isTable
      exact absurd rfl (namesOf?_ne_nil spelled)

/-- So is the tree of the sources before it. -/
theorem exists_build : ∃ entries origin, library.build sources = .table entries origin := by
  have reads := merging.reads
  generalize library.build sources = tree at reads
  cases reads with
  | leaf leaf => cases leaf
  | table => exact ⟨_, _, rfl⟩

theorem isInOrder_build : isInOrder (library.build sources) = false := by
  obtain ⟨_, _, eq⟩ := merging.exists_build
  rw [eq]
  rfl

/-- What the environment gives to a name is merged into what was there before. -/
theorem exists_merged : ∃ entries origin,
    library.build (sources ++ [library.readVariables environment]) = .table entries origin
      ∧ ∀ name, Tree.Merges (Tree.child? (some (library.build sources)) name)
        (Tree.child? (some (library.environmentTree environment)) name) (entries.lookup name) := by
  obtain ⟨later, origin, eq⟩ := Tree.exists_of_isTable merging.isTable_environmentTree
  have merges := merging.merges
  rw [eq] at merges ⊢
  obtain ⟨entries, originMerged, same, merges⟩ := merges.exists_of_table
  exact ⟨entries, originMerged, Option.some.inj same, merges⟩

/-- A group can be read in both layers as it can be in the environment, or else before. -/
theorem isGroup_merged (group : String) :
    isGroup (groupOf (library.build (sources ++ [library.readVariables environment])) group)
      = isGroup
        (groupOfBoth (library.build sources) (library.environmentTree environment) group) := by
  obtain ⟨entries, origin, eq, merges⟩ := merging.exists_merged
  have merged := merges group.toList
  have inMerged : groupOf (.table entries origin) group
      = (entries.lookup group.toList).getD (.table [] none) := rfl
  rw [eq, inMerged, groupOfBoth, groupOf]
  generalize Tree.child? (some (library.build sources)) group.toList = earlier at merged
  generalize Tree.child? (some (library.environmentTree environment)) group.toList = later at merged
  generalize entries.lookup group.toList = both at merged
  cases merged <;> rfl

/-- What is no table in the environment is a scalar. -/
theorem exists_scalar {names : List (List Char)} {tree : Tree}
    (stands : Tree.at? (some (library.environmentTree environment)) names = some tree)
    (leaf : tree.isTable = false) : ∃ value origin, tree = .scalar value origin := by
  obtain ⟨_, _, _, eq⟩ := merging.value names tree stands leaf
  exact ⟨_, _, eq⟩

/-- What both layers give to a setting, if its group can be read. -/
theorem merges_inTree? (setting : Setting)
    (areGroups : ∀ group, setting.place.group? = some group → isGroup
      (groupOfBoth (library.build sources) (library.environmentTree environment) group) = true) :
    Tree.Merges (setting.base (library.build sources) (library.environmentTree environment))
      (Tree.at? (some (library.environmentTree environment)) setting.names)
      (setting.inTree? (library.build (sources ++ [library.readVariables environment]))) := by
  obtain ⟨entries, origin, eq, merges⟩ := merging.exists_merged
  rw [eq, names]
  cases stands : setting.place.group? with
  | none =>
      have before : setting.base (library.build sources) (library.environmentTree environment)
          = Tree.child? (some (library.build sources)) setting.place.name.toList := by
        rw [base, stands]
        dsimp only
        rw [inTree?_of_alone stands, inGroup?_of_not_inOrder setting merging.isInOrder_build]
      rw [before, inTree?_of_alone stands, inGroup?_of_not_inOrder setting rfl]
      exact merges setting.place.name.toList
  | some group =>
      have isGroup := areGroups group stands
      have merged := merges group.toList
      have inMerged : groupOf (.table entries origin) group
          = (entries.lookup group.toList).getD (.table [] none) := rfl
      rw [groupOfBoth] at isGroup
      dsimp only
      rw [inTree?_of_group stands, Tree.at?_cons, inMerged]
      cases given : Tree.child? (some (library.environmentTree environment)) group.toList with
      | none =>
          rw [given] at merged
          rw [merged.eq_of_none, base_of_unset stands given, Tree.at?_none]
          exact .keeps _
      | some tree =>
          rw [given] at isGroup merged
          rw [base_of_set stands (by rw [given]; rfl)]
          cases isTable : tree.isTable with
          | false =>
              have atGroup : Tree.at? (some (library.environmentTree environment)) [group.toList]
                  = some tree := given
              obtain ⟨_, _, rfl⟩ := merging.exists_scalar atGroup isTable
              cases isGroup
          | true =>
              obtain ⟨later, source, rfl⟩ := Tree.exists_of_isTable isTable
              obtain ⟨both, originBoth, same, inGroup⟩ := merged.exists_of_table
              rw [same, Option.getD_some, inGroup?_of_not_inOrder setting rfl]
              exact inGroup setting.place.name.toList

end Library.Merges

end Settings

end AdmissionControl
