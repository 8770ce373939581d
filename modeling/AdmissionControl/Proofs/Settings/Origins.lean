import AdmissionControl.Proofs.Settings.Layers

/-!
# Where settings come from

A setting has its value from a variable that sets it, or else from the file, and else its usual one.
A file gives to it what stands under its name. A group that a file gives as a list is read in order,
and is lost as a variable sets something in it.
-/

namespace AdmissionControl

namespace Tree

variable {written found : Option Tree}

theorem reads_child? {entries : List (List Char × Tree)} {origin : Option Origin} {tree : Tree}
    (reads : Reads (some (.table entries origin)) (some tree)) (name : List Char) :
    Reads (named? entries name) (child? (some tree) name) := by
  cases reads with
  | leaf leaf => cases leaf
  | table _ _ reads => exact reads name

end Tree

namespace Settings

/-- Variables set something in a group, or the group itself. -/
def IsInto (environment : List (List Char × List Char)) (group : String) : Prop :=
  ∃ entry ∈ environment, ∃ below, namesOf? entry.1 = some (group.toList :: below)

/-- No variable sets the same as another one, or a part of that. -/
def IsUnambiguous (environment : List (List Char × List Char)) : Prop :=
  ∀ first ∈ environment, ∀ second ∈ environment, ∀ names below,
    namesOf? first.1 = some names → namesOf? second.1 = some (names ++ below) → first = second

end Settings

namespace Setting

open Settings

variable {setting : Setting}

/-- What the entries of a file give to a setting: the value under its name in any case, in its group
if it has one, or the value at its position if the group is a list. -/
def inEntries? (setting : Setting) (entries : List (List Char × Tree)) : Option Tree :=
  let name := setting.place.name.toList
  match setting.place.group? with
  | none => Tree.named? entries name
  | some group =>
      match Tree.named? entries group.toList with
      | some (.table inner _) => Tree.named? inner name
      | some (.list items _) => items[setting.place.position]?
      | _ => none

/-- A setting stands in a group that a file gives as a list, which is lost as a variable sets
something in that group by name. -/
def IsLost (setting : Setting) (entries : List (List Char × Tree))
    (environment : List (List Char × List Char)) : Prop :=
  ∃ group, setting.place.group? = some group
    ∧ (∃ items origin, Tree.named? entries group.toList = some (.list items origin))
    ∧ IsInto environment group

/-- Where the value of a setting comes from. -/
inductive Comes (library : Library) (usual settings : Settings)
    (entries : List (List Char × Tree)) (environment : List (List Char × List Char))
    (setting : Setting) : Prop
  /-- From a variable. -/
  | fromVariable {entry : List Char × List Char} (member : entry ∈ environment)
      (sets : setting.isNamedBy entry.1 = true)
      (takes : setting.Takes library usual settings
        (some (.scalar (valueOfVariable entry.2) (some .environment))))
  /-- From the file, if no variable sets it. -/
  | fromFile (unset : ∀ entry ∈ environment, setting.isNamedBy entry.1 = false) {value : Tree}
      (given : setting.inEntries? entries = some value)
      (kept : ¬ setting.IsLost entries environment)
      (takes : setting.Takes library usual settings (some value))
  /-- If the file does not give it either, it keeps its usual value. -/
  | usual (unset : ∀ entry ∈ environment, setting.isNamedBy entry.1 = false)
      (missing : setting.inEntries? entries = none ∨ setting.IsLost entries environment)
      (takes : setting.Takes library usual settings none)

end Setting

namespace Settings

open Setting

variable {library : Library} {sources : List Source} {environment : List (List Char × List Char)}
variable {usual settings : Settings} {setting : Setting} {group : String}

namespace Library.Merges

variable (merging : library.Merges sources environment)
include merging

/-- What is no table stands at some name. -/
theorem ne_nil_of_leaf {names : List (List Char)} {tree : Tree}
    (stands : Tree.at? (some (library.environmentTree environment)) names = some tree)
    (leaf : tree.isTable = false) : names ≠ [] := by
  rintro rfl
  have isTable := merging.isTable_environmentTree
  rw [Option.some.inj stands, leaf] at isTable
  cases isTable

section Groups

/-- The environment gives something to a group exactly if a variable leads there. -/
theorem isSome_group_iff (group : String) :
    (Tree.child? (some (library.environmentTree environment)) group.toList).isSome = true
      ↔ IsInto environment group := by
  have atGroup : Tree.at? (some (library.environmentTree environment)) [group.toList]
      = Tree.child? (some (library.environmentTree environment)) group.toList := rfl
  constructor
  · intro isSome
    obtain ⟨tree, given⟩ := Option.isSome_iff_exists.mp isSome
    cases isTable : tree.isTable with
    | false =>
        obtain ⟨entry, member, spelled, _⟩ := merging.value _ tree (atGroup.trans given) isTable
        exact ⟨entry, member, [], spelled⟩
    | true =>
        obtain ⟨entry, member, below, _, spelled⟩ :=
          merging.way _ tree (atGroup.trans given) isTable (by simp)
        exact ⟨entry, member, below, spelled⟩
  · rintro ⟨entry, member, below, spelled⟩
    by_contra missing
    rw [Option.not_isSome_iff_eq_none] at missing
    rcases merging.counts entry member _ spelled with
      isSome | ⟨before, rest, tree, split, _, at?, leaf⟩
    · rw [Tree.at?_cons, missing, Tree.at?_none] at isSome
      cases isSome
    · cases before with
      | nil => exact merging.ne_nil_of_leaf at? leaf rfl
      | cons name before =>
          obtain rfl := (List.cons.inj split).1
          rw [Tree.at?_cons, missing, Tree.at?_none] at at?
          cases at?

/-- A file gives a list for a group exactly if the group is read in order. -/
theorem isInOrder_groupOf_iff (group : String) :
    isInOrder (groupOf (library.build sources) group) = true
      ↔ ∃ items origin, Tree.named? sources.flatten group.toList = some (.list items origin) := by
  have reads := Tree.reads_child? merging.reads group.toList
  rw [groupOf]
  generalize Tree.named? sources.flatten group.toList = written at reads
  generalize Tree.child? (some (library.build sources)) group.toList = found at reads
  cases reads with
  | nothing => simp [isInOrder]
  | @leaf tree leaf => cases tree <;> simp [isInOrder]
  | table => simp [isInOrder]

theorem isGroup_groupOf_iff (group : String) :
    isGroup (groupOf (library.build sources) group) = true
      ↔ ∀ value origin, Tree.named? sources.flatten group.toList ≠ some (.scalar value origin) := by
  have reads := Tree.reads_child? merging.reads group.toList
  rw [groupOf]
  generalize Tree.named? sources.flatten group.toList = written at reads
  generalize Tree.child? (some (library.build sources)) group.toList = found at reads
  cases reads with
  | nothing => simp [isGroup]
  | @leaf tree leaf => cases tree <;> simp [isGroup]
  | table => simp [isGroup]

theorem base_of_isLost (lost : setting.IsLost sources.flatten environment) :
    setting.base (library.build sources) (library.environmentTree environment) = none := by
  obtain ⟨group, stands, inOrder, isInto⟩ := lost
  rw [base, stands]
  dsimp only
  rw [(merging.isInOrder_groupOf_iff group).mpr inOrder,
    (merging.isSome_group_iff group).mpr isInto]
  rfl

theorem base_of_not_isLost (kept : ¬ setting.IsLost sources.flatten environment) :
    setting.base (library.build sources) (library.environmentTree environment)
      = setting.inTree? (library.build sources) := by
  rw [base]
  cases stands : setting.place.group? with
  | none => rfl
  | some group =>
      refine if_neg fun both => kept ?_
      rw [Bool.and_eq_true, merging.isInOrder_groupOf_iff, merging.isSome_group_iff] at both
      exact ⟨group, stands, both⟩

end Groups

section Files

/-- A file gives to a setting what its entries give. -/
theorem inTree?_reads (setting : Setting) :
    setting.inTree? (library.build sources) = setting.inEntries? sources.flatten
      ∨ Tree.Reads (setting.inEntries? sources.flatten)
        (setting.inTree? (library.build sources)) := by
  rw [inEntries?]
  cases stands : setting.place.group? with
  | none =>
      refine .inr ?_
      rw [inTree?_of_alone stands, inGroup?_of_not_inOrder setting merging.isInOrder_build]
      exact Tree.reads_child? merging.reads _
  | some group =>
      have reads := Tree.reads_child? merging.reads group.toList
      rw [inTree?_of_group stands, groupOf]
      dsimp only
      generalize Tree.named? sources.flatten group.toList = written at reads
      generalize Tree.child? (some (library.build sources)) group.toList = found at reads
      cases reads with
      | nothing => exact .inl (inGroup?_of_not_inOrder setting rfl)
      | @leaf tree leaf =>
          refine .inl ?_
          cases tree with
          | scalar => exact inGroup?_of_not_inOrder setting rfl
          | list items =>
              dsimp only
              rw [Option.getD_some, inGroup?, given?, Option.map_map]
              exact Option.map_id_apply
          | table => cases leaf
      | table _ _ reads =>
          refine .inr ?_
          rw [Option.getD_some, inGroup?_of_not_inOrder setting rfl]
          exact reads setting.place.name.toList

theorem takes_inTree?_iff (converts : library.Converts) (setting : Setting) :
    setting.Takes library usual settings (setting.inTree? (library.build sources))
      ↔ setting.Takes library usual settings (setting.inEntries? sources.flatten) := by
  rcases merging.inTree?_reads setting with same | reads
  · rw [same]
  generalize setting.inEntries? sources.flatten = written at reads
  generalize setting.inTree? (library.build sources) = found at reads
  cases reads with
  | nothing => rfl
  | leaf => rfl
  | table => exact iff_of_false (not_takes_table converts rfl) (not_takes_table converts rfl)

end Files

section Variables

/-- A variable sets nothing where the environment gives nothing, in a group that can be read. -/
theorem unset_of_at?_eq_none
    (areGroups : ∀ group ∈ groups, isGroup
      (groupOfBoth (library.build sources) (library.environmentTree environment) group) = true)
    (missing : Tree.at? (some (library.environmentTree environment)) setting.names = none) :
    ∀ entry ∈ environment, setting.isNamedBy entry.1 = false := by
  intro entry member
  by_contra named
  have isNamed : setting.isNamedBy entry.1 = true := by simpa using named
  rcases merging.counts entry member _ (of_decide_eq_true isNamed) with
    isSome | ⟨before, below, tree, split, more, at?, leaf⟩
  · rw [missing] at isSome
    cases isSome
  obtain ⟨value, origin, rfl⟩ := merging.exists_scalar at? leaf
  -- The value on the way stands in the place of the group.
  rw [names] at split
  rcases before with _ | ⟨first, _ | ⟨second, rest⟩⟩
  · exact merging.ne_nil_of_leaf at? leaf rfl
  · cases stands : setting.place.group? with
    | none =>
        rw [stands] at split
        exact more (List.cons.inj split).2.symm
    | some group =>
        rw [stands] at split
        obtain rfl : group.toList = first := (List.cons.inj split).1
        have isGroup := areGroups group (group_mem stands)
        have given : Tree.child? (some (library.environmentTree environment)) group.toList
            = some (.scalar value origin) := at?
        rw [groupOfBoth, given] at isGroup
        cases isGroup
  · cases stands : setting.place.group? <;> rw [stands] at split <;> simp at split
    exact more split.2.2.2

/-- A variable that is like no other one counts. -/
theorem at?_of_isUnambiguous (unambiguous : IsUnambiguous environment)
    {entry : List Char × List Char} (member : entry ∈ environment) {names : List (List Char)}
    (spelled : namesOf? entry.1 = some names) :
    Tree.at? (some (library.environmentTree environment)) names
      = some (.scalar (valueOfVariable entry.2) (some .environment)) := by
  rcases merging.counts entry member names spelled with
    isSome | ⟨before, below, tree, rfl, more, at?, leaf⟩
  · obtain ⟨tree, given⟩ := Option.isSome_iff_exists.mp isSome
    cases isTable : tree.isTable with
    | false =>
        obtain ⟨other, isOther, same, eq⟩ := merging.value names tree given isTable
        obtain rfl := unambiguous entry member other isOther names [] spelled (by simpa using same)
        rw [given, eq]
    | true =>
        obtain ⟨other, isOther, below, more, longer⟩ :=
          merging.way names tree given isTable (namesOf?_ne_nil spelled)
        obtain rfl := unambiguous entry member other isOther names below spelled longer
        rw [spelled] at longer
        exact absurd (List.self_eq_append_right.mp (Option.some.inj longer)) more
  · obtain ⟨other, isOther, shorter, _⟩ := merging.value before tree at? leaf
    obtain rfl := unambiguous other isOther entry member before below shorter spelled
    rw [shorter] at spelled
    exact absurd (List.self_eq_append_right.mp (Option.some.inj spelled)) more

end Variables

end Library.Merges

end Settings

end AdmissionControl
