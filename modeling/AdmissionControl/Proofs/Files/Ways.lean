import AdmissionControl.Files.Socket
import Mathlib.Data.List.Basic

/-!
# Where a path leads

A path goes on leading where it leads as long as the directories on its way stay. What lies at its
end is not on its way unless it is a directory. So whatever becomes of a file or a socket at its
end, the path leads to the same place, and clearing the path leaves a directory there or nothing.
-/

namespace AdmissionControl.Files

variable {files before middle after : Files} {path : List Char} {location other : Location}
  {entry : Entry}

section Entries

theorem lookup_filter_of_ne (different : other ≠ location) (entries : List (Location × Entry)) :
    (entries.filter (·.1 ≠ location)).lookup other = entries.lookup other := by
  induction entries with
  | nil => rfl
  | cons first rest inductionHypothesis =>
      by_cases same : first.1 = location
      · rw [List.filter_cons_of_neg (by simp [same]), List.lookup_cons, inductionHypothesis,
          beq_eq_false_iff_ne.mpr (same ▸ different)]
      · rw [List.filter_cons_of_pos (by simp [same]), List.lookup_cons, List.lookup_cons,
          inductionHypothesis]

theorem lookup_filter_self (location : Location) (entries : List (Location × Entry)) :
    (entries.filter (·.1 ≠ location)).lookup location = none := by
  rw [List.lookup_eq_none_iff]
  intro entry member
  have different : entry.1 ≠ location := of_decide_eq_true (List.mem_filter.mp member).2
  exact bne_iff_ne.mpr (Ne.symm different)

/-- The way to the working directory is always there, and what lies elsewhere is listed. -/
theorem entryAt?_congr (workingDirectory : after.workingDirectory = before.workingDirectory)
    (listed : after.entries.lookup location = before.entries.lookup location) :
    after.entryAt? location = before.entryAt? location := by
  rw [entryAt?, entryAt?, workingDirectory, listed]

theorem entryAt?_put_of_ne (different : other ≠ location) :
    (files.put location entry).entryAt? other = files.entryAt? other := by
  refine entryAt?_congr rfl ?_
  rw [put, List.lookup_cons, beq_eq_false_iff_ne.mpr different]
  exact lookup_filter_of_ne different files.entries

theorem entryAt?_remove_of_ne (different : other ≠ location) :
    (files.remove location).entryAt? other = files.entryAt? other :=
  entryAt?_congr rfl (lookup_filter_of_ne different files.entries)

theorem not_isPrefixOf (noDirectory : files.entryAt? location ≠ some .directory) :
    ¬ location.isPrefixOf files.workingDirectory = true :=
  fun onTheWay => noDirectory (if_pos onTheWay)

theorem entryAt?_put_self (noDirectory : files.entryAt? location ≠ some .directory) :
    (files.put location entry).entryAt? location = some entry :=
  (if_neg (not_isPrefixOf noDirectory)).trans List.lookup_cons_self

theorem entryAt?_remove_self (noDirectory : files.entryAt? location ≠ some .directory) :
    (files.remove location).entryAt? location = none :=
  (if_neg (not_isPrefixOf noDirectory)).trans (lookup_filter_self location files.entries)

end Entries

section Changes

/-- Nothing has changed but what lies at a location. -/
structure SameElsewhere (location : Location) (before after : Files) : Prop where
  workingDirectory : after.workingDirectory = before.workingDirectory
  elsewhere : ∀ other, other ≠ location → after.entryAt? other = before.entryAt? other

theorem sameElsewhere_refl (location : Location) (files : Files) :
    SameElsewhere location files files :=
  ⟨rfl, fun _ _ => rfl⟩

theorem sameElsewhere_put (location : Location) (files : Files) (entry : Entry) :
    SameElsewhere location files (files.put location entry) :=
  ⟨rfl, fun _ different => entryAt?_put_of_ne different⟩

theorem sameElsewhere_remove (location : Location) (files : Files) :
    SameElsewhere location files (files.remove location) :=
  ⟨rfl, fun _ different => entryAt?_remove_of_ne different⟩

theorem SameElsewhere.trans (first : SameElsewhere location before middle)
    (second : SameElsewhere location middle after) : SameElsewhere location before after :=
  ⟨second.workingDirectory.trans first.workingDirectory, fun other different =>
    (second.elsewhere other different).trans (first.elsewhere other different)⟩

/-- Every directory is still there. -/
structure KeepsDirectories (before after : Files) : Prop where
  workingDirectory : after.workingDirectory = before.workingDirectory
  directories : ∀ location, before.entryAt? location = some .directory →
    after.entryAt? location = some .directory

theorem SameElsewhere.keepsDirectories (same : SameElsewhere location before after)
    (noDirectory : before.entryAt? location ≠ some .directory) : KeepsDirectories before after where
  workingDirectory := same.workingDirectory
  directories other directory := by
    have different : other ≠ location := fun eq => noDirectory (eq ▸ directory)
    rw [same.elsewhere other different, directory]

theorem keepsDirectories_remove (noDirectory : files.entryAt? location ≠ some .directory) :
    KeepsDirectories files (files.remove location) :=
  (sameElsewhere_remove location files).keepsDirectories noDirectory

end Changes

section Steps

/-- Where one step leads. -/
theorem enter_eq_ok_iff {directory : Location} {step : List Char} :
    files.enter directory step = .ok location ↔
      (step = hereStep ∧ directory = location)
        ∨ (step ≠ hereStep ∧ step = upStep ∧ directory.dropLast = location)
        ∨ (step ≠ hereStep ∧ step ≠ upStep ∧ place directory step = .ok location
            ∧ files.entryAt? location = some .directory) := by
  unfold enter
  by_cases here : step = hereStep
  · simp [here, pure, Except.pure]
  by_cases up : step = upStep
  · simp only [up, if_true]
    simp [pure, Except.pure, hereStep, upStep]
  simp only [here, up, bind, Except.bind, if_false, false_and, false_or, not_false_eq_true,
    ne_eq, true_and]
  cases placed : place directory step with
  | error obstacle => simp
  | ok goal =>
      simp only [Except.ok.injEq]
      constructor
      · intro entered
        split at entered
        · next lies =>
          cases entered
          exact ⟨rfl, lies⟩
        · cases entered
        · cases entered
      · rintro ⟨rfl, isDirectory⟩
        rw [isDirectory]
        rfl

theorem KeepsDirectories.enter (keeps : KeepsDirectories before after) {directory : Location}
    {step : List Char} (entered : before.enter directory step = .ok location) :
    after.enter directory step = .ok location := by
  rw [enter_eq_ok_iff] at entered ⊢
  rcases entered with here | up | ⟨notHere, notUp, placed, isDirectory⟩
  · exact .inl here
  · exact .inr (.inl up)
  · exact .inr (.inr ⟨notHere, notUp, placed, keeps.directories location isDirectory⟩)

theorem directoryAt_cons (files : Files) (start : Location) (step : List Char)
    (steps : List (List Char)) :
    files.directoryAt start (step :: steps)
      = (files.enter start step).bind fun next => files.directoryAt next steps := rfl

theorem directoryAt_append (files : Files) (start : Location) (first second : List (List Char)) :
    files.directoryAt start (first ++ second)
      = (files.directoryAt start first).bind fun next => files.directoryAt next second :=
  List.foldlM_append ..

theorem KeepsDirectories.directoryAt (keeps : KeepsDirectories before after) {start : Location}
    {steps : List (List Char)} (leads : before.directoryAt start steps = .ok location) :
    after.directoryAt start steps = .ok location := by
  induction steps generalizing start with
  | nil => exact leads
  | cons step rest inductionHypothesis =>
      rw [directoryAt_cons] at leads ⊢
      cases entered : before.enter start step with
      | error obstacle =>
          rw [entered] at leads
          cases leads
      | ok next =>
          rw [entered] at leads
          rw [keeps.enter entered]
          exact inductionHypothesis leads

/-- The steps before others lead to a directory if all of them do. -/
theorem directoryAt_of_append {start : Location} {first second : List (List Char)}
    (leads : files.directoryAt start (first ++ second) = .ok location) :
    ∃ onTheWay, files.directoryAt start first = .ok onTheWay := by
  rw [directoryAt_append] at leads
  cases firstLeads : files.directoryAt start first with
  | error obstacle =>
      rw [firstLeads] at leads
      cases leads
  | ok onTheWay => exact ⟨onTheWay, rfl⟩

/-- Steps that stay where they are can be left out. -/
theorem directoryAt_filter (files : Files) (start : Location) (steps : List (List Char)) :
    files.directoryAt start (steps.filter (· ≠ hereStep)) = files.directoryAt start steps := by
  induction steps generalizing start with
  | nil => rfl
  | cons step rest inductionHypothesis =>
      by_cases here : step = hereStep
      · rw [List.filter_cons_of_neg (by simp [here]), directoryAt_cons, here,
          inductionHypothesis]
        rfl
      · rw [List.filter_cons_of_pos (by simp [here]), directoryAt_cons, directoryAt_cons]
        exact congrArg _ (funext inductionHypothesis)

end Steps

section Targets

variable {start directory : Location} {outer : List (List Char)} {last : List Char} {goal : Target}

/-- Where steps end whose last one stays or goes up. -/
theorem target_of_stays (leads : files.directoryAt start outer = .ok directory)
    (stays : last = hereStep ∨ last = upStep) :
    files.target start (outer ++ [last]) = (files.enter directory last).map .directory := by
  simp only [target, List.dropLast_concat, List.getLast?_concat, leads, stays, if_true]
  rfl

/-- Where steps end whose last one is a name. -/
theorem target_of_name (leads : files.directoryAt start outer = .ok directory)
    (isName : ¬ (last = hereStep ∨ last = upStep)) :
    files.target start (outer ++ [last]) = (place directory last).map .named := by
  simp only [target, List.dropLast_concat, List.getLast?_concat, leads, isName, if_false]
  rfl

/-- Steps end somewhere only if those before the last one lead to a directory. -/
theorem directoryAt_of_target {steps : List (List Char)}
    (ends : files.target start steps = .ok goal) :
    ∃ directory, files.directoryAt start steps.dropLast = .ok directory := by
  unfold target at ends
  cases leads : files.directoryAt start steps.dropLast with
  | error obstacle =>
      rw [leads] at ends
      cases ends
  | ok directory => exact ⟨directory, rfl⟩

theorem map_eq_ok_iff {α β : Type} {outcome : Except Obstacle α} {make : α → β} {result : β} :
    outcome.map make = .ok result ↔ ∃ value, outcome = .ok value ∧ make value = result := by
  cases outcome <;> simp [Except.map]

theorem KeepsDirectories.target (keeps : KeepsDirectories before after) {steps : List (List Char)}
    (ends : before.target start steps = .ok goal) : after.target start steps = .ok goal := by
  obtain ⟨directory, leads⟩ := directoryAt_of_target ends
  rcases List.eq_nil_or_concat steps with rfl | ⟨outer, last, rfl⟩
  · exact ends
  rw [List.concat_eq_append, List.dropLast_concat] at leads
  rw [List.concat_eq_append] at ends ⊢
  by_cases stays : last = hereStep ∨ last = upStep
  · rw [target_of_stays leads stays, map_eq_ok_iff] at ends
    obtain ⟨location, entered, same⟩ := ends
    rw [target_of_stays (keeps.directoryAt leads) stays, keeps.enter entered, ← same]
    rfl
  · rw [target_of_name leads stays] at ends
    rw [target_of_name (keeps.directoryAt leads) stays, ends]

theorem startOf_congr (workingDirectory : after.workingDirectory = before.workingDirectory)
    (path : List Char) : after.startOf path = before.startOf path := by
  rw [startOf, startOf, workingDirectory]

/-- A path that can be one leads where its steps do. -/
theorem targetOf_eq_ok_iff :
    files.targetOf path = .ok goal ↔
      path ≠ [] ∧ '\x00' ∉ path ∧ (Text.encode path).length ≤ greatestPath
        ∧ files.target (files.startOf path) (stepsOf path) = .ok goal := by
  unfold targetOf
  by_cases empty : path = []
  · simp [empty]
  by_cases null : '\x00' ∈ path
  · simp [empty, null]
  by_cases long : greatestPath < (Text.encode path).length
  · simp [empty, null, long, Nat.not_le_of_lt long]
  · simp [empty, null, long, Nat.le_of_not_lt long]

/-- A path goes on leading where it leads as long as the directories stay. -/
theorem KeepsDirectories.targetOf (keeps : KeepsDirectories before after)
    (leads : before.targetOf path = .ok goal) : after.targetOf path = .ok goal := by
  rw [targetOf_eq_ok_iff] at leads ⊢
  obtain ⟨notEmpty, notNull, fits, ends⟩ := leads
  rw [startOf_congr keeps.workingDirectory]
  exact ⟨notEmpty, notNull, fits, keeps.target ends⟩

/-- What a path leads to that ends at a name. -/
theorem find_of_named (leads : files.targetOf path = .ok (.named location)) :
    files.find path = (files.entryAt? location).elim (.error .noSuchFile) fun entry =>
      .ok (location, entry) := by
  unfold find
  rw [leads]
  cases lies : files.entryAt? location <;> simp only [bind, Except.bind, lies] <;> rfl

/-- A path leads to something only if it ends somewhere. -/
theorem find_eq_ok_iff :
    files.find path = .ok (location, entry) ↔
      (files.targetOf path = .ok (.directory location) ∧ entry = .directory)
        ∨ (files.targetOf path = .ok (.named location) ∧ files.entryAt? location = some entry) := by
  cases leads : files.targetOf path with
  | error obstacle =>
      have failed : files.find path = .error obstacle := by
        unfold find
        rw [leads]
        rfl
      simp [failed]
  | ok goal =>
      cases goal with
      | directory place =>
          have found : files.find path = .ok (place, .directory) := by
            unfold find
            rw [leads]
            rfl
          simp [found, eq_comm]
      | named place =>
          rw [find_of_named leads]
          constructor
          · intro found
            cases lies : files.entryAt? place with
            | none =>
                rw [lies] at found
                cases found
            | some lying =>
                rw [lies] at found
                cases found
                exact .inr ⟨rfl, lies⟩
          · rintro (⟨same, _⟩ | ⟨same, lies⟩)
            · cases same
            · cases same
              rw [lies]
              rfl

/-- A directory that a path leads to is still there as long as all are. -/
theorem KeepsDirectories.find (keeps : KeepsDirectories before after)
    (found : before.find path = .ok (location, .directory)) :
    after.find path = .ok (location, .directory) := by
  rw [find_eq_ok_iff] at found ⊢
  rcases found with ⟨leads, _⟩ | ⟨leads, lies⟩
  · exact .inl ⟨keeps.targetOf leads, rfl⟩
  · exact .inr ⟨keeps.targetOf leads, keeps.directories location lies⟩

end Targets

section Clearing

theorem perform_unlink (files : Files) (path : List Char) :
    files.perform (unlink path)
      = match files.targetOf path with
        | .error obstacle => (.error obstacle, files)
        | .ok (.directory _) => (.error .isDirectory, files)
        | .ok (.named location) =>
            match files.entryAt? location with
            | none => (.error .noSuchFile, files)
            | some .directory => (.error .isDirectory, files)
            | some _ => (.ok (), files.remove location) := by
  change ExceptT.run (match files.targetOf path with
    | .error obstacle => throw obstacle
    | .ok (.directory _) => throw .isDirectory
    | .ok (.named location) =>
        match files.entryAt? location with
        | none => throw .noSuchFile
        | some .directory => throw .isDirectory
        | some _ => set (files.remove location) : Action Unit) files = _
  split
  · rfl
  · rfl
  · next location leads =>
    cases files.entryAt? location with
    | none => rfl
    | some entry => cases entry <;> rfl

/-- What a path leads to is removed unless it is a directory, and only then anything is done. -/
theorem perform_unlink_cases (files : Files) (path : List Char) :
    (∃ location, files.targetOf path = .ok (.named location)
        ∧ files.entryAt? location ≠ some .directory
        ∧ files.perform (unlink path) = (.ok (), files.remove location))
      ∨ ∃ obstacle, (∀ location entry, files.find path = .ok (location, entry) → entry = .directory)
          ∧ files.perform (unlink path) = (.error obstacle, files) := by
  rw [perform_unlink]
  cases leads : files.targetOf path with
  | error obstacle =>
      refine .inr ⟨obstacle, fun location entry found => ?_, rfl⟩
      simp [find_eq_ok_iff, leads] at found
  | ok goal =>
      cases goal with
      | directory place =>
          refine .inr ⟨.isDirectory, fun location entry found => ?_, rfl⟩
          have leadsThere : place = location ∧ entry = .directory := by
            simpa [find_eq_ok_iff, leads] using found
          exact leadsThere.2
      | named place =>
          have found := find_of_named leads
          cases lies : files.entryAt? place with
          | none =>
              refine .inr ⟨.noSuchFile, fun location entry foundThere => ?_, by simp only [lies]⟩
              rw [found, lies] at foundThere
              cases foundThere
          | some entry =>
              by_cases isDirectory : entry = .directory
              · subst isDirectory
                refine .inr ⟨.isDirectory, fun location entry foundThere => ?_, by simp only [lies]⟩
                rw [found, lies] at foundThere
                cases foundThere
                rfl
              · refine .inl ⟨place, rfl, by simpa [lies] using isDirectory, ?_⟩
                simp only [lies]

/-- A cleared path leads to a directory or to nothing. -/
theorem eq_directory_of_find_clear (found : (files.clear path).find path = .ok (location, entry)) :
    entry = .directory := by
  unfold clear at found
  rcases perform_unlink_cases files path with
    ⟨place, leads, noDirectory, performed⟩ | ⟨obstacle, onlyDirectory, performed⟩
  · rw [performed] at found
    dsimp only at found
    rw [find_of_named ((keepsDirectories_remove noDirectory).targetOf leads),
      entryAt?_remove_self noDirectory] at found
    cases found
  · rw [performed] at found
    exact onlyDirectory location entry found

/-- The path leads to the location, whatever lies there. -/
def Leads (files : Files) (path : List Char) (location : Location) : Prop :=
  ∀ other, SameElsewhere location files other → other.targetOf path = .ok (.named location)

theorem leads_of_targetOf (named : files.targetOf path = .ok (.named location))
    (noDirectory : files.entryAt? location ≠ some .directory) : files.Leads path location :=
  fun _ same => (same.keepsDirectories noDirectory).targetOf named

theorem Leads.targetOf (leads : files.Leads path location) :
    files.targetOf path = .ok (.named location) := leads files (sameElsewhere_refl location files)

theorem Leads.of_sameElsewhere (leads : before.Leads path location)
    (same : SameElsewhere location before after) : after.Leads path location :=
  fun other sameLater => leads other (same.trans sameLater)

/-- Clearing a path does nothing elsewhere, and leaves only a directory at its end. -/
theorem Leads.clear (leads : files.Leads path location) :
    SameElsewhere location files (files.clear path)
      ∧ (files.clear path).entryAt? location
          = (files.entryAt? location).filter (· = .directory) := by
  unfold Files.clear
  rcases perform_unlink_cases files path with
    ⟨place, named, noDirectory, performed⟩ | ⟨obstacle, onlyDirectory, performed⟩
  · obtain rfl : location = place := by
      rw [leads.targetOf] at named
      cases named
      rfl
    rw [performed]
    refine ⟨sameElsewhere_remove location files, ?_⟩
    dsimp only
    rw [entryAt?_remove_self noDirectory]
    refine (Option.filter_eq_none_iff.mpr fun entry lies => ?_).symm
    rw [lies] at noDirectory
    simpa using noDirectory
  · rw [performed]
    refine ⟨sameElsewhere_refl location files, ?_⟩
    dsimp only
    cases lies : files.entryAt? location with
    | none => rfl
    | some entry =>
        have found : files.find path = .ok (location, entry) :=
          find_eq_ok_iff.mpr (.inr ⟨leads.targetOf, lies⟩)
        rw [onlyDirectory location entry found]
        rfl

theorem Leads.find_eq_ok_iff (leads : files.Leads path location) :
    files.find path = .ok (location, entry) ↔ files.entryAt? location = some entry := by
  rw [Files.find_eq_ok_iff, leads.targetOf]
  simp

/-- A cleared path leads to the directory that was there, or to nothing. -/
theorem Leads.find_clear (leads : files.Leads path location) :
    (files.clear path).find path
      = if files.entryAt? location = some .directory then .ok (location, .directory)
        else .error .noSuchFile := by
  obtain ⟨same, lies⟩ := leads.clear
  rw [find_of_named (leads.of_sameElsewhere same).targetOf, lies]
  cases files.entryAt? location with
  | none => rfl
  | some entry => cases entry <;> rfl

end Clearing

end AdmissionControl.Files
