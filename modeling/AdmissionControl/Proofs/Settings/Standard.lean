import AdmissionControl.Proofs.Settings.Keys
import AdmissionControl.Proofs.Settings.Layers
import AdmissionControl.Settings.Standard
import Mathlib.Data.List.Induction

/-!
# What the standard library does

The standard library merges sources key by key, if the keys of the file are plain names, no two of
them alike, and those of the variables are names joined by points, none of which leads further than
another one. It converts values of the kind that is wanted as they are.
-/

namespace AdmissionControl

open Text

namespace Tree

/-- Whether no two keys in one table are alike. -/
inductive IsClear : Tree → Prop
  | leaf {tree : Tree} (leaf : tree.isTable = false) : IsClear tree
  | table {entries : List (List Char × Tree)} (origin : Option Origin)
      (distinct : AreDistinct entries) (clear : ∀ entry ∈ entries, IsClear entry.2) :
      IsClear (.table entries origin)

theorem exists_overlay_none (entries : List (List Char × Tree)) (origin : Option Origin) :
    ∃ laid laidOrigin, overlay none (.table entries origin) = .table laid laidOrigin := by
  rw [overlay]
  split
  · exact ⟨_, _, rfl⟩
  · exact ⟨_, _, rfl⟩

/-- A tree that is laid over nothing has its values, under their keys in lower case. -/
theorem IsClear.reads {tree : Tree} (clear : tree.IsClear) :
    Reads (some tree) (some (overlay none tree)) := by
  induction clear with
  | @leaf tree leaf =>
      have unchanged : overlay none tree = tree := by
        cases tree with
        | scalar => exact overlay_scalar none _ _
        | list => exact overlay_list none _ _
        | table => cases leaf
      rw [unchanged]
      exact .leaf leaf
  | @table entries origin distinct _ inductionHypothesis =>
      obtain ⟨laid, laidOrigin, eq⟩ := exists_overlay_none entries origin
      rw [eq]
      refine .table origin laidOrigin fun name => ?_
      rw [← child?_table laid laidOrigin, ← eq, child?_overlay_none distinct]
      cases found : named? entries name with
      | none => exact .nothing
      | some value =>
          obtain ⟨entry, isFound, rfl⟩ := Option.map_eq_some_iff.mp found
          exact inductionHypothesis entry (List.mem_of_find?_eq_some isFound)

variable {earlier later merged : Option Tree} {value : Tree}

/-- Below what is a table in the later tree, trees are merged as they are at it. -/
theorem Merges.child? (merges : Merges earlier later merged)
    (noLeaf : ∀ tree, later = some tree → tree.isTable = true) (name : List Char) :
    Merges (Tree.child? earlier name) (Tree.child? later name) (Tree.child? merged name) := by
  cases merges with
  | keeps => exact .keeps _
  | replaces _ leaf =>
      rw [noLeaf _ rfl] at leaf
      cases leaf
  | descends _ _ merges => exact merges name

/-- A value that is put into the later tree and into the merged one, with no other value on the way,
is merged. -/
theorem Merges.changeAt (leaf : value.isTable = false) {names : List (List Char)}
    (noLeaf : ∀ before below, names = before ++ below → below ≠ [] →
      ∀ tree, at? later before = some tree → tree.isTable = true)
    (merges : Merges earlier later merged) :
    Merges earlier (some (changeAt (fun _ => value) (names.map .key) later))
      (some (changeAt (fun _ => value) (names.map .key) merged)) := by
  induction names generalizing earlier later merged with
  | nil => exact .replaces _ leaf
  | cons name rest inductionHypothesis =>
      have below := merges.child? (noLeaf [] (name :: rest) rfl (by simp))
      refine .descends _ _ fun other => ?_
      by_cases here : other = name
      · subst here
        rw [lookup_changeEntry_self, lookup_changeEntry_self]
        refine inductionHypothesis (fun before below split more tree stands => ?_) (below other)
        exact noLeaf (other :: before) below (congrArg (other :: ·) split) more tree stands
      · rw [lookup_changeEntry_of_ne here, lookup_changeEntry_of_ne here]
        exact below other

end Tree

namespace Settings

/-- A place that names lead to, and a value there. -/
abbrev Assignment := List (List Char) × Tree

/-- Puts a value in a place. -/
def put (tree : Tree) (assignment : Assignment) : Tree :=
  Tree.changeAt (fun _ => assignment.2) (assignment.1.map .key) (some tree)

/-- No value is put below another one. -/
structure AreApart (laid : List Assignment) : Prop where
  leaf : ∀ assignment ∈ laid, assignment.2.isTable = false
  apart : ∀ first ∈ laid, ∀ second ∈ laid, ∀ below, second.1 = first.1 ++ below → below = []

theorem AreApart.of_append {laid more : List Assignment} (apart : AreApart (laid ++ more)) :
    AreApart laid where
  leaf assignment member := apart.leaf assignment (List.mem_append_left more member)
  apart first isFirst second isSecond := apart.apart first (List.mem_append_left more isFirst)
    second (List.mem_append_left more isSecond)

/-- A tree holds the values that are put into it, and nothing else. -/
structure IsBuilt (laid : List Assignment) (tree : Tree) : Prop where
  value : ∀ names found, Tree.at? (some tree) names = some found → found.isTable = false →
    (names, found) ∈ laid
  way : ∀ names found, Tree.at? (some tree) names = some found → found.isTable = true →
    names ≠ [] → ∃ assignment ∈ laid, ∃ below, below ≠ [] ∧ assignment.1 = names ++ below
  counts : ∀ assignment ∈ laid, (Tree.at? (some tree) assignment.1).isSome = true

theorem isBuilt_nil : IsBuilt [] (.table [] none) where
  value names found stands leaf := by
    cases names with
    | nil =>
        cases stands
        cases leaf
    | cons name rest =>
        rw [Tree.at?_cons, Tree.child?_table, List.lookup_nil, Tree.at?_none] at stands
        cases stands
  way names found stands _ more := by
    obtain ⟨name, rest, rfl⟩ := List.exists_cons_of_ne_nil more
    rw [Tree.at?_cons, Tree.child?_table, List.lookup_nil, Tree.at?_none] at stands
    cases stands
  counts := nofun

/-- Two lists of names: one begins with the other, or neither does. -/
theorem prefix_cases (names other : List (List Char)) :
    (∃ below, other = names ++ below)
      ∨ (∃ below, below ≠ [] ∧ names = other ++ below)
      ∨ (¬ names <+: other ∧ ¬ other <+: names) := by
  by_cases isBelow : names <+: other
  · obtain ⟨below, eq⟩ := isBelow
    exact .inl ⟨below, eq.symm⟩
  by_cases isBefore : other <+: names
  · obtain ⟨below, rfl⟩ := isBefore
    refine .inr (.inl ⟨below, ?_, rfl⟩)
    rintro rfl
    simp at isBelow
  · exact .inr (.inr ⟨isBelow, isBefore⟩)

/-- One more value is put into a tree. -/
theorem IsBuilt.put {laid : List Assignment} {assignment : Assignment} {tree : Tree}
    (built : IsBuilt laid tree) (areApart : AreApart (laid ++ [assignment])) :
    IsBuilt (laid ++ [assignment]) (Settings.put tree assignment) := by
  obtain ⟨place, value⟩ := assignment
  have leaf : value.isTable = false := areApart.leaf (place, value) (by simp)
  have atPlace (below : List (List Char)) :
      Tree.at? (some (Settings.put tree (place, value))) (place ++ below)
        = Tree.at? (some value) below := Tree.at?_changeAt_self _ place below (some tree)
  have onWay (before below : List (List Char)) (more : below ≠ []) :
      ∃ entries origin, Tree.at? (some (Settings.put tree (before ++ below, value))) before
        = some (.table entries origin) := Tree.exists_at?_changeAt _ more (some tree)
  have elsewhere (names : List (List Char)) (apart : ¬ place <+: names ∧ ¬ names <+: place) :
      Tree.at? (some (Settings.put tree (place, value))) names = Tree.at? (some tree) names :=
    Tree.at?_changeAt_of_apart apart.1 apart.2 (some tree)
  refine ⟨fun names found stands isLeaf => ?_, fun names found stands isTable more => ?_,
    fun other member => ?_⟩
  · rcases prefix_cases place names with ⟨below, rfl⟩ | ⟨below, more, rfl⟩ | apart
    · rw [atPlace] at stands
      cases below with
      | nil =>
          obtain rfl := Option.some.inj stands
          simp
      | cons name rest =>
          rw [Tree.at?_of_leaf leaf (by simp)] at stands
          cases stands
    · obtain ⟨entries, origin, isTable⟩ := onWay names below more
      rw [isTable] at stands
      obtain rfl := Option.some.inj stands
      cases isLeaf
    · rw [elsewhere names apart] at stands
      exact List.mem_append_left _ (built.value names found stands isLeaf)
  · rcases prefix_cases place names with ⟨below, rfl⟩ | ⟨below, further, rfl⟩ | apart
    · rw [atPlace] at stands
      cases below with
      | nil =>
          obtain rfl := Option.some.inj stands
          rw [leaf] at isTable
          cases isTable
      | cons name rest =>
          rw [Tree.at?_of_leaf leaf (by simp)] at stands
          cases stands
    · exact ⟨(names ++ below, value), by simp, below, further, rfl⟩
    · rw [elsewhere names apart] at stands
      obtain ⟨assignment, member, leadsOn⟩ := built.way names found stands isTable more
      exact ⟨assignment, List.mem_append_left _ member, leadsOn⟩
  · rcases prefix_cases place other.1 with ⟨below, eq⟩ | ⟨below, more, eq⟩ | apart
    · rw [eq, atPlace, areApart.apart (place, value) (by simp) other member below eq]
      rfl
    · exact absurd (areApart.apart other member (place, value) (by simp) below eq) more
    · rw [elsewhere other.1 apart]
      rcases List.mem_append.mp member with isLaid | isThis
      · exact built.counts other isLaid
      · obtain rfl := List.mem_singleton.mp isThis
        exact absurd (List.prefix_refl place) apart.1

/-- Any values. -/
theorem isBuilt_foldl {laid : List Assignment} (areApart : AreApart laid) :
    IsBuilt laid (laid.foldl put (.table [] none)) := by
  induction laid using List.reverseRecOn with
  | nil => exact isBuilt_nil
  | append_singleton laid assignment inductionHypothesis =>
      rw [List.foldl_append]
      exact (inductionHypothesis areApart.of_append).put areApart

/-- Values that are put into a table are merged into it. -/
theorem merges_foldl_put {laid : List Assignment} (areApart : AreApart laid)
    (entries : List (List Char × Tree)) (origin : Option Origin) :
    Tree.Merges (some (.table entries origin)) (some (laid.foldl put (.table [] none)))
      (some (laid.foldl put (.table entries origin))) := by
  induction laid using List.reverseRecOn with
  | nil => exact .descends none origin fun name => .keeps _
  | append_singleton laid assignment inductionHypothesis =>
      rw [List.foldl_append, List.foldl_append]
      refine Tree.Merges.changeAt (areApart.leaf assignment (by simp))
        (fun before below split more tree stands => ?_) (inductionHypothesis areApart.of_append)
      by_contra isLeaf
      have isLaid := (isBuilt_foldl areApart.of_append).value before tree stands
        (by simpa using isLeaf)
      exact more (areApart.apart (before, tree) (List.mem_append_left _ isLaid) assignment
        (by simp) below split)

section Sources

/-- What the standard library takes as it is written: keys of a file that are names, no two in one
table alike. -/
structure ArePlain (entries : List (List Char × Tree)) : Prop where
  names : ∀ entry ∈ entries, Tree.Path.ofKey (lowerCase entry.1) = [.key (lowerCase entry.1)]
  distinct : Tree.AreDistinct entries
  clear : ∀ entry ∈ entries, entry.2.IsClear

/-- Variables whose keys are names joined by points, none of which leads further than another. -/
structure AreSpelled (environment : List (List Char × List Char)) : Prop where
  names : ∀ entry ∈ environment, ∀ key, keyOfVariable? entry.1 = some key →
    Tree.Path.ofKey (lowerCase key) = ((lowerCase key).splitOn '.').map .key
  apart : ∀ first ∈ environment, ∀ second ∈ environment, ∀ names below,
    namesOf? first.1 = some names → namesOf? second.1 = some (names ++ below) → below = []

/-- The values that variables put in places. -/
def assignments (environment : List (List Char × List Char)) : List Assignment :=
  environment.filterMap fun entry =>
    (namesOf? entry.1).map fun names =>
      (names, .scalar (valueOfVariable entry.2) (some .environment))

variable {entries : List (List Char × Tree)} {environment : List (List Char × List Char)}

theorem mem_assignments_iff {assignment : Assignment} :
    assignment ∈ assignments environment
      ↔ ∃ entry ∈ environment, namesOf? entry.1 = some assignment.1
        ∧ assignment.2 = .scalar (valueOfVariable entry.2) (some .environment) := by
  constructor
  · intro member
    obtain ⟨entry, isEntry, assigned⟩ := List.mem_filterMap.mp member
    obtain ⟨names, spelled, rfl⟩ := Option.map_eq_some_iff.mp assigned
    exact ⟨entry, isEntry, spelled, rfl⟩
  · rintro ⟨entry, isEntry, spelled, eq⟩
    refine List.mem_filterMap.mpr ⟨entry, isEntry, ?_⟩
    rw [spelled, Option.map_some, ← eq]

theorem AreSpelled.areApart (spelled : AreSpelled environment) :
    AreApart (assignments environment) where
  leaf assignment member := by
    obtain ⟨_, _, _, eq⟩ := mem_assignments_iff.mp member
    rw [eq]
    rfl
  apart first isFirst second isSecond below leadsOn := by
    obtain ⟨entry, member, names, _⟩ := mem_assignments_iff.mp isFirst
    obtain ⟨other, isOther, longer, _⟩ := mem_assignments_iff.mp isSecond
    exact spelled.apart entry member other isOther first.1 below names (leadsOn ▸ longer)

/-- Variables put their values in their places, one after another. -/
theorem AreSpelled.layEntries_eq (spelled : AreSpelled environment) (tree : Tree) :
    layEntries tree (entriesOfVariables environment)
      = (assignments environment).foldl put tree := by
  have names := spelled.names
  clear spelled
  induction environment generalizing tree with
  | nil => rfl
  | cons entry rest inductionHypothesis =>
      have ofRest (tree : Tree) :
          layEntries tree (entriesOfVariables rest) = (assignments rest).foldl put tree :=
        inductionHypothesis tree fun other member => names other (List.mem_cons_of_mem entry member)
      cases keyed : keyOfVariable? entry.1 with
      | none =>
          have noEntry : entriesOfVariables (entry :: rest) = entriesOfVariables rest := by
            simp [entriesOfVariables, keyed]
          have noAssignment : assignments (entry :: rest) = assignments rest := by
            simp [assignments, namesOf?, keyed]
          rw [noEntry, noAssignment]
          exact ofRest tree
      | some key =>
          have first : entriesOfVariables (entry :: rest)
              = (key, .scalar (valueOfVariable entry.2) (some .environment))
                :: entriesOfVariables rest := by
            simp [entriesOfVariables, keyed]
          have firstAssignment : assignments (entry :: rest)
              = ((lowerCase key).splitOn '.',
                  .scalar (valueOfVariable entry.2) (some .environment)) :: assignments rest := by
            simp [assignments, namesOf?, keyed]
          have laid : layOver tree key (.scalar (valueOfVariable entry.2) (some .environment))
              = put tree ((lowerCase key).splitOn '.',
                .scalar (valueOfVariable entry.2) (some .environment)) := by
            rw [layOver, names entry List.mem_cons_self key keyed]
            simp only [Tree.overlay_scalar]
            rfl
          rw [first, firstAssignment, List.foldl_cons, ← laid, ← ofRest]
          rfl

/-- Names that can stand in a path, joined by points, lead where they say. -/
theorem ofKey_eq_splitOn {key : List Char}
    (areNames : ∀ name ∈ key.splitOn '.', Tree.Path.IsName name) :
    Tree.Path.ofKey key = (key.splitOn '.').map .key := by
  have joined (name : List Char) (rest : List (List Char)) :
      List.intercalate ['.'] (name :: rest) = name ++ Tree.Path.mark rest := by
    induction rest generalizing name with
    | nil => simp [Tree.Path.mark]
    | cons next rest inductionHypothesis =>
        rw [List.intercalate_cons_of_ne_nil (by simp), inductionHypothesis, Tree.Path.mark_cons]
        simp
  have whole : List.intercalate ['.'] (key.splitOn '.') = key := List.intercalate_splitOn '.'
  cases split : key.splitOn '.' with
  | nil => exact absurd split (List.splitOn_ne_nil '.' key)
  | cons name rest =>
      rw [split] at areNames whole
      exact (Tree.Path.ofKey_eq_iff areNames key).mpr (whole.symm.trans (joined name rest))

/-- Variables that set one setting are spelled out. -/
theorem areSpelled_of_isNamedBy {setting : Setting}
    (only : ∀ entry ∈ environment, setting.isNamedBy entry.1 = true) : AreSpelled environment where
  names entry member key keyed := by
    have spelled : namesOf? entry.1 = some setting.names := of_decide_eq_true (only entry member)
    rw [namesOf?, keyed, Option.map_some] at spelled
    refine ofKey_eq_splitOn fun name isName => ?_
    rw [Option.some.inj spelled] at isName
    revert name
    cases setting <;> decide
  apart first isFirst second isSecond names below shorter longer := by
    have firstNames : namesOf? first.1 = some setting.names :=
      of_decide_eq_true (only first isFirst)
    have secondNames : namesOf? second.1 = some setting.names :=
      of_decide_eq_true (only second isSecond)
    rw [shorter] at firstNames
    rw [longer, ← firstNames] at secondNames
    exact List.append_right_eq_self.mp (Option.some.inj secondNames)

/-- Entries with plain keys are laid over a table as another table is. -/
theorem ArePlain.layEntries_eq (plain : ArePlain entries) (base : List (List Char × Tree))
    (origin : Option Origin) :
    layEntries (.table base origin) entries = .table (Tree.overlayEntries base entries) origin := by
  have names := plain.names
  clear plain
  induction entries generalizing base with
  | nil => simp [layEntries, Tree.overlayEntries]
  | cons entry rest inductionHypothesis =>
      obtain ⟨key, value⟩ := entry
      have laid : layOver (.table base origin) key value
          = .table (Tree.changeEntry (fun old => Tree.overlay old value) (lowerCase key) base)
              origin := by
        rw [layOver, names _ List.mem_cons_self]
        rfl
      have ofRest := inductionHypothesis
        (Tree.changeEntry (fun old => Tree.overlay old value) (lowerCase key) base)
        (fun other member => names other (List.mem_cons_of_mem _ member))
      rw [Tree.overlayEntries, ← ofRest, ← laid]
      rfl

theorem layEntries_append (tree : Tree) (first second : List (List Char × Tree)) :
    layEntries tree (first ++ second) = layEntries (layEntries tree first) second :=
  List.foldl_append

/-- The standard library merges plain entries and variables that are spelled out key by key. -/
theorem standard_merges {sources : List Source} (plain : ArePlain sources.flatten)
    (spelled : AreSpelled environment) : Library.standard.Merges sources environment := by
  have built : Library.standard.build sources
      = .table (Tree.overlayEntries [] sources.flatten) none := plain.layEntries_eq [] none
  have alone : Library.standard.environmentTree environment
      = (assignments environment).foldl put (.table [] none) := by
    rw [← spelled.layEntries_eq]
    exact congrArg (layEntries (.table [] none)) (by simp [Library.standard])
  have together : Library.standard.build (sources ++ [Library.standard.readVariables environment])
      = (assignments environment).foldl put (Library.standard.build sources) := by
    rw [← spelled.layEntries_eq]
    refine Eq.trans (congrArg (layEntries (.table [] none)) ?_)
      (layEntries_append (.table [] none) sources.flatten (entriesOfVariables environment))
    simp [Library.standard]
  have isBuilt := isBuilt_foldl spelled.areApart
  rw [← alone] at isBuilt
  refine ⟨?_, ?_, fun names tree stands leaf => ?_, fun names tree stands isTable more => ?_,
    fun entry member names spelledOut => .inl ?_⟩
  · rw [built]
    refine .table none none fun name => ?_
    rw [Tree.lookup_overlayEntries plain.distinct]
    cases found : Tree.named? sources.flatten name with
    | none => exact .nothing
    | some value =>
        obtain ⟨entry, isFound, rfl⟩ := Option.map_eq_some_iff.mp found
        exact (plain.clear entry (List.mem_of_find?_eq_some isFound)).reads
  · rw [together, alone, built]
    exact merges_foldl_put spelled.areApart _ none
  · exact mem_assignments_iff.mp (isBuilt.value names tree stands leaf)
  · obtain ⟨assignment, isAssigned, below, further, eq⟩ :=
      isBuilt.way names tree stands isTable more
    obtain ⟨entry, member, spelledOut, _⟩ := mem_assignments_iff.mp isAssigned
    exact ⟨entry, member, below, further, eq ▸ spelledOut⟩
  · exact isBuilt.counts (names, .scalar (valueOfVariable entry.2) (some .environment))
      (mem_assignments_iff.mpr ⟨entry, member, spelledOut, rfl⟩)

end Sources

section Conversions

theorem refusesTables {α : Type} {convert : Tree → Except Mismatch α}
    (refused : ∀ entries origin, ∃ mismatch, convert (.table entries origin) = .error mismatch) :
    Library.RefusesTables convert := by
  intro tree value converted
  cases tree with
  | scalar | list => rfl
  | table entries origin =>
      obtain ⟨mismatch, failed⟩ := refused entries origin
      rw [failed] at converted
      cases converted

theorem toTextsFrom_texts (position : Nat) (texts : List (List Char)) (origin : Option Origin) :
    Tree.toTextsFrom position (texts.map fun text => .scalar (.text text) origin) = .ok texts := by
  induction texts generalizing position with
  | nil => rfl
  | cons text rest inductionHypothesis =>
      rw [List.map_cons, Tree.toTextsFrom, inductionHypothesis]
      rfl

theorem toWord64_whole (value : UInt64) (origin : Option Origin) :
    Tree.toWord64 (.scalar (.whole value.toNat) origin) = .ok value := by
  simp [Tree.toWord64]

theorem toWord32_whole (value : UInt32) (origin : Option Origin) :
    Tree.toWord32 (.scalar (.whole value.toNat) origin) = .ok value := by
  have bound : value.toNat < UInt32.size := value.toNat_lt
  simp [Tree.toWord32, Tree.toWord64, bind, Except.bind, bound, pure, Except.pure]

/-- The standard library converts values of the kind that is wanted as they are. -/
theorem standard_converts : Library.standard.Converts where
  flag _ _ := rfl
  word32 := toWord32_whole
  word64 := toWord64_whole
  real _ _ := rfl
  texts := toTextsFrom_texts 0
  text value _ some := by
    cases value with
    | nothing => exact absurd rfl some
    | flag | whole | real | text => rfl
  flagNoTable := refusesTables fun _ _ => ⟨_, rfl⟩
  word32NoTable := refusesTables fun _ _ => ⟨_, rfl⟩
  word64NoTable := refusesTables fun _ _ => ⟨_, rfl⟩
  realNoTable := refusesTables fun _ _ => ⟨_, rfl⟩
  textNoTable := refusesTables fun _ _ => ⟨_, rfl⟩
  textsNoTable := refusesTables fun _ _ => ⟨_, rfl⟩

end Conversions

end Settings

end AdmissionControl
