import AdmissionControl.Proofs.Files.Ways
import Mathlib.Data.List.Flatten

/-!
# Preparing the end of a path

Making the directory that a path lies in only adds directories. It fails only for a path that leads
nowhere then, and does nothing for one that leads somewhere already.
-/

namespace AdmissionControl.Files

variable {files before middle after : Files} {path : List Char} {start location : Location}
  {names : List (List Char)}

section Actions

variable {α β : Type} (action : Action α)

/-- One action after another. -/
theorem perform_bind (files : Files) (next : α → Action β) :
    files.perform (action >>= next)
      = match files.perform action with
        | (.ok value, after) => after.perform (next value)
        | (.error obstacle, after) => (.error obstacle, after) := by
  unfold perform
  rw [ExceptT.run_bind, StateT.run_bind]
  rcases StateT.run action.run files with ⟨_ | _, after⟩ <;> rfl

/-- An action that is tried, with what is done if it fails. -/
theorem perform_tryCatch (files : Files) (handler : Obstacle → Action α) :
    files.perform (tryCatch action handler)
      = match files.perform action with
        | (.ok value, after) => (.ok value, after)
        | (.error obstacle, after) => after.perform (handler obstacle) := by
  unfold perform
  rw [ExceptT.run_tryCatch, StateT.run_bind]
  rcases StateT.run action.run files with ⟨_ | _, after⟩ <;> rfl

end Actions

section Additions

/-- Whatever was there is still there. -/
structure Extends (before after : Files) : Prop where
  workingDirectory : after.workingDirectory = before.workingDirectory
  entries : ∀ location entry, before.entryAt? location = some entry →
    after.entryAt? location = some entry

theorem extends_refl (files : Files) : Extends files files := ⟨rfl, fun _ _ lies => lies⟩

theorem Extends.trans (first : Extends before middle) (second : Extends middle after) :
    Extends before after :=
  ⟨second.workingDirectory.trans first.workingDirectory, fun location entry lies =>
    second.entries location entry (first.entries location entry lies)⟩

theorem Extends.keepsDirectories (adds : Extends before after) : KeepsDirectories before after :=
  ⟨adds.workingDirectory, fun location => adds.entries location .directory⟩

theorem extends_put (nothing : files.entryAt? location = none) (entry : Entry) :
    Extends files (files.put location entry) where
  workingDirectory := rfl
  entries other lying lies := by
    have different : other ≠ location := fun same => by
      rw [same, nothing] at lies
      cases lies
    rw [entryAt?_put_of_ne different, lies]

end Additions

section Directories

theorem perform_makeDirectory (files : Files) (start : Location) (names : List (List Char)) :
    files.perform (makeDirectory start names)
      = match files.target start names with
        | .error obstacle => (.error obstacle, files)
        | .ok (.directory _) => (.error .fileExists, files)
        | .ok (.named location) =>
            if (files.entryAt? location).isSome then (.error .fileExists, files)
            else (.ok (), files.put location .directory) := by
  change ExceptT.run (match files.target start names with
    | .error obstacle => throw obstacle
    | .ok (.directory _) => throw .fileExists
    | .ok (.named location) =>
        if (files.entryAt? location).isSome then throw .fileExists
        else set (files.put location .directory) : Action Unit) files = _
  split
  · rfl
  · rfl
  · split <;> rfl

theorem makeDirectory_cases (files : Files) (start : Location) (names : List (List Char)) :
    (∃ location, files.target start names = .ok (.named location)
        ∧ files.entryAt? location = none
        ∧ files.perform (makeDirectory start names) = (.ok (), files.put location .directory))
      ∨ ∃ obstacle, files.perform (makeDirectory start names) = (.error obstacle, files) := by
  rw [perform_makeDirectory]
  split
  · exact .inr ⟨_, rfl⟩
  · exact .inr ⟨_, rfl⟩
  · next location named =>
    cases lies : files.entryAt? location with
    | none => exact .inl ⟨location, named, lies, rfl⟩
    | some entry => exact .inr ⟨_, rfl⟩

theorem perform_ensureDirectory (files : Files) (start : Location) (names : List (List Char)) :
    files.perform (ensureDirectory start names)
      = match files.perform (makeDirectory start names) with
        | (.ok value, after) => (.ok value, after)
        | (.error obstacle, after) =>
            match after.directoryAt start names with
            | .ok _ => (.ok (), after)
            | .error _ => (.error obstacle, after) := by
  rw [ensureDirectory, perform_tryCatch]
  rcases files.perform (makeDirectory start names) with ⟨obstacle | value, after⟩
  · change ExceptT.run (match after.directoryAt start names with
      | .ok _ => pure ()
      | .error _ => throw obstacle : Action Unit) after = _
    dsimp only
    cases after.directoryAt start names <;> rfl
  · rfl

/-- There is a directory where steps lead to one. -/
theorem entryAt?_of_directoryAt {names : List (List Char)} {directory : Location}
    (leads : files.directoryAt start names = .ok directory)
    (named : files.target start names = .ok (.named location)) :
    files.entryAt? location = some .directory := by
  rcases List.eq_nil_or_concat names with rfl | ⟨outer, last, rfl⟩
  · cases named
  rw [List.concat_eq_append] at leads named
  obtain ⟨parent, leadsToParent⟩ := directoryAt_of_append leads
  by_cases stays : last = hereStep ∨ last = upStep
  · rw [target_of_stays leadsToParent stays, map_eq_ok_iff] at named
    obtain ⟨_, _, same⟩ := named
    cases same
  · obtain ⟨notHere, notUp⟩ := not_or.mp stays
    rw [target_of_name leadsToParent stays, map_eq_ok_iff] at named
    obtain ⟨place, placed, same⟩ := named
    cases same
    rw [directoryAt_append, leadsToParent] at leads
    have entered : files.enter parent last = .ok directory := by
      rw [← leads]
      exact (bind_pure (files.enter parent last)).symm
    rcases enter_eq_ok_iff.mp entered with
      ⟨here, _⟩ | ⟨_, up, _⟩ | ⟨_, _, placedThere, isDirectory⟩
    · exact absurd here notHere
    · exact absurd up notUp
    · rw [placed] at placedThere
      cases placedThere
      exact isDirectory

/-- What becomes of a directory that is to be there: nothing but it is added, an attempt fails only
if it is not there, and nothing is done if it is there. -/
structure Furnishes (start : Location) (names : List (List Char)) (before : Files)
    (result : Except Obstacle Unit × Files) : Prop where
  adds : Extends before result.2
  fails : ∀ obstacle, result.1 = .error obstacle →
    ∀ location, result.2.directoryAt start names ≠ .ok location
  rests : ∀ location, before.directoryAt start names = .ok location → result = (.ok (), before)

theorem furnishes_ensureDirectory (files : Files) (start : Location) (names : List (List Char)) :
    Furnishes start names files (files.perform (ensureDirectory start names)) := by
  have performed := files.perform_ensureDirectory start names
  rcases files.makeDirectory_cases start names with
    ⟨location, named, nothing, made⟩ | ⟨obstacle, failed⟩
  · rw [made] at performed
    dsimp only at performed
    rw [performed]
    refine ⟨extends_put nothing .directory, nofun, fun directory leads => ?_⟩
    have isDirectory := entryAt?_of_directoryAt leads named
    rw [nothing] at isDirectory
    cases isDirectory
  · rw [failed] at performed
    dsimp only at performed
    rw [performed]
    cases leads : files.directoryAt start names with
    | ok directory => exact ⟨extends_refl files, nofun, fun _ _ => rfl⟩
    | error other =>
        refine ⟨extends_refl files, fun _ _ location found => ?_, fun location found => ?_⟩
        · rw [leads] at found
          cases found
        · rw [leads] at found
          cases found

theorem perform_ensureDirectories (files : Files) (start : Location) (last : List Char)
    (outer : List (List Char)) :
    files.perform (ensureDirectories start (last :: outer))
      = match files.perform (ensureDirectory start (last :: outer).reverse) with
        | (.ok value, after) => (.ok value, after)
        | (.error obstacle, after) =>
            if obstacle = .noSuchFile then
              match after.perform (ensureDirectories start outer) with
              | (.ok _, middle) => middle.perform (ensureDirectory start (last :: outer).reverse)
              | (.error obstacle, middle) => (.error obstacle, middle)
            else
              (.error obstacle, after) := by
  rw [ensureDirectories, perform_tryCatch]
  rcases files.perform (ensureDirectory start (last :: outer).reverse) with ⟨obstacle | _, after⟩
  · dsimp only
    split
    · rw [perform_bind]
      rcases after.perform (ensureDirectories start outer) with ⟨_ | _, middle⟩ <;> rfl
    · rfl
  · rfl

theorem furnishes_ensureDirectories (files : Files) (start : Location)
    (names : List (List Char)) :
    Furnishes start names.reverse files (files.perform (ensureDirectories start names)) := by
  induction names generalizing files with
  | nil => exact ⟨extends_refl files, nofun, fun _ _ => rfl⟩
  | cons last outer inductionHypothesis =>
      have first := files.furnishes_ensureDirectory start (last :: outer).reverse
      have performed := files.perform_ensureDirectories start last outer
      rcases tried : files.perform (ensureDirectory start (last :: outer).reverse) with
        ⟨obstacle | _, after⟩
      · rw [tried] at performed first
        dsimp only at performed
        have absent (location : Location)
            (leads : files.directoryAt start (last :: outer).reverse = .ok location) : False := by
          cases first.rests location leads
        by_cases missing : obstacle = .noSuchFile
        · rw [if_pos missing] at performed
          have second := inductionHypothesis after
          rcases furnished : after.perform (ensureDirectories start outer) with
            ⟨other | _, middle⟩
          · rw [furnished] at performed second
            rw [performed]
            refine ⟨first.adds.trans second.adds, fun _ _ location leads => ?_,
              fun location leads => (absent location leads).elim⟩
            rw [List.reverse_cons] at leads
            obtain ⟨parent, leadsToParent⟩ := directoryAt_of_append leads
            exact second.fails other rfl parent leadsToParent
          · rw [furnished] at performed second
            rw [performed]
            have third := middle.furnishes_ensureDirectory start (last :: outer).reverse
            exact ⟨first.adds.trans (second.adds.trans third.adds), third.fails,
              fun location leads => (absent location leads).elim⟩
        · rw [if_neg missing] at performed
          rw [performed]
          exact first
      · rw [tried] at performed first
        rw [performed]
        exact first

end Directories

section Parents

theorem intercalate_sublist {α : Type} (separator : List α) {fewer all : List (List α)}
    (sublist : fewer.Sublist all) :
    (List.intercalate separator fewer).Sublist (List.intercalate separator all) := by
  induction sublist with
  | slnil => exact .refl _
  | @cons fewer all first sublist inductionHypothesis =>
      rcases eq_or_ne all [] with rfl | more
      · rw [List.sublist_nil.mp sublist]
        exact List.nil_sublist _
      · rw [List.intercalate_cons_of_ne_nil more]
        exact inductionHypothesis.trans (List.sublist_append_right _ _)
  | @cons_cons fewer all first sublist inductionHypothesis =>
      rcases eq_or_ne fewer [] with rfl | some
      · rcases eq_or_ne all [] with rfl | more
        · exact .refl _
        · rw [List.intercalate_cons_of_ne_nil more, List.intercalate_singleton, List.append_assoc]
          exact List.sublist_append_left _ _
      · have more : all ≠ [] := fun none => some (List.sublist_nil.mp (none ▸ sublist))
        rw [List.intercalate_cons_of_ne_nil more, List.intercalate_cons_of_ne_nil some]
        exact inductionHypothesis.append_left _

theorem movesOf_sublist (path : List Char) : (movesOf path).Sublist (path.splitOn '/') := by
  unfold movesOf stepsOf
  dsimp only
  split
  · rw [List.filter_append, show [hereStep].filter (· ≠ hereStep) = [] from rfl, List.append_nil]
    exact List.filter_sublist.trans List.filter_sublist
  · exact List.filter_sublist.trans List.filter_sublist

/-- The names before the last one, as a path, are part of the path. -/
theorem outer_sublist (path : List Char) :
    (List.intercalate ['/'] (movesOf path).dropLast).Sublist path := by
  have part := intercalate_sublist ['/'] ((List.dropLast_sublist _).trans (movesOf_sublist path))
  rwa [List.intercalate_splitOn] at part

/-- A path that leads somewhere lies in a directory. -/
theorem directoryAt_of_targetOf {goal : Target} (leads : files.targetOf path = .ok goal) :
    ∃ directory,
      files.directoryAt (files.startOf path) (movesOf path).dropLast = .ok directory := by
  obtain ⟨directory, leadsToIt⟩ := directoryAt_of_target (targetOf_eq_ok_iff.mp leads).2.2.2
  unfold movesOf
  rcases List.eq_nil_or_concat (stepsOf path) with empty | ⟨outer, last, steps⟩
  · rw [empty]
    exact ⟨_, rfl⟩
  · rw [steps, List.concat_eq_append, List.dropLast_concat] at leadsToIt
    rw [steps, List.concat_eq_append, List.filter_append]
    rw [← directoryAt_filter] at leadsToIt
    by_cases here : last = hereStep
    · rw [List.filter_cons_of_neg (by simp [here]), List.filter_nil, List.append_nil]
      obtain ⟨rest, split⟩ := List.dropLast_prefix (outer.filter (· ≠ hereStep))
      rw [← split] at leadsToIt
      exact directoryAt_of_append leadsToIt
    · rw [List.filter_cons_of_pos (by simp [here]), List.filter_nil, List.dropLast_concat]
      exact ⟨directory, leadsToIt⟩

theorem perform_ensureParent (files : Files) (path : List Char) :
    let outer := (movesOf path).dropLast
    files.perform (ensureParent path)
      = if outer.any (·.contains '\x00') then (.error .nullInPath, files)
        else if greatestPath < (Text.encode (List.intercalate ['/'] outer)).length then
          (.error .nameTooLong, files)
        else files.perform (ensureDirectories (files.startOf path) outer.reverse) := by
  intro outer
  by_cases null : outer.any (·.contains '\x00')
  · rw [if_pos null]
    unfold ensureParent
    simp only [outer] at null
    simp only [null, if_true]
    rfl
  by_cases long : greatestPath < (Text.encode (List.intercalate ['/'] outer)).length
  · rw [if_neg null, if_pos long]
    unfold ensureParent
    simp only [outer] at null long
    simp only [null, long, if_true]
    rfl
  · rw [if_neg null, if_neg long]
    unfold ensureParent
    simp only [outer] at null long
    simp only [null, long, if_false]
    rfl

/-- Making the directory that a path lies in adds nothing but directories. It fails only if the path
leads nowhere then, and does nothing if it leads somewhere. -/
structure Readies (path : List Char) (before : Files) (result : Except Obstacle Unit × Files) :
    Prop where
  adds : Extends before result.2
  fails : ∀ obstacle, result.1 = .error obstacle → ∀ goal, result.2.targetOf path ≠ .ok goal
  rests : ∀ goal, before.targetOf path = .ok goal → result = (.ok (), before)

theorem readies_ensureParent (files : Files) (path : List Char) :
    Readies path files (files.perform (ensureParent path)) := by
  have part := outer_sublist path
  have readies_of_nowhere (obstacle : Obstacle)
      (nowhere : ∀ (files : Files) goal, files.targetOf path ≠ .ok goal) :
      Readies path files (.error obstacle, files) :=
    ⟨extends_refl files, fun _ _ => nowhere files,
      fun goal leads => (nowhere files goal leads).elim⟩
  rw [perform_ensureParent]
  split
  · next null =>
    obtain ⟨name, member, inName⟩ := List.any_eq_true.mp null
    have inOuter := intercalate_sublist ['/'] (List.singleton_sublist.mpr member)
    rw [List.intercalate_singleton] at inOuter
    have inPath := (inOuter.trans part).subset (List.contains_iff_mem.mp inName)
    exact readies_of_nowhere .nullInPath fun files goal leads =>
      (targetOf_eq_ok_iff.mp leads).2.1 inPath
  · split
    · next long =>
      have tooLong : greatestPath < (Text.encode path).length :=
        Nat.lt_of_lt_of_le long (part.flatMap _).length_le
      exact readies_of_nowhere .nameTooLong fun files goal leads =>
        Nat.not_le_of_lt tooLong (targetOf_eq_ok_iff.mp leads).2.2.1
    · have furnishes := files.furnishes_ensureDirectories (files.startOf path)
        (movesOf path).dropLast.reverse
      rw [List.reverse_reverse] at furnishes
      refine ⟨furnishes.adds, fun obstacle failed goal leads => ?_, fun goal leads => ?_⟩
      · obtain ⟨directory, leadsToIt⟩ := directoryAt_of_targetOf leads
        rw [startOf_congr furnishes.adds.workingDirectory] at leadsToIt
        exact furnishes.fails obstacle failed directory leadsToIt
      · obtain ⟨directory, leadsToIt⟩ := directoryAt_of_targetOf leads
        exact furnishes.rests directory leadsToIt

end Parents

end AdmissionControl.Files
