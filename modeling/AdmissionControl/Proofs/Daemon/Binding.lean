import AdmissionControl.Daemon.Server
import AdmissionControl.Proofs.Files.Preparing

/-!
# Binding a server

Whatever lies at a path and on its way, binding a server there either fails and leaves no socket, or
leaves the socket of the server. It touches nothing that was there but what the path leads to, and
no directory at all. A file or a socket that an earlier run left is no hindrance.
-/

namespace AdmissionControl

open Files

variable {before middle after files : Files} {path : List Char} {location : Location}

namespace Files

/-- Nothing that was there is touched but what the path leads to, and no directory at all. -/
structure Spares (path : List Char) (before after : Files) : Prop where
  workingDirectory : after.workingDirectory = before.workingDirectory
  entries : ∀ location entry, before.entryAt? location = some entry →
    after.entryAt? location = some entry
      ∨ (entry ≠ .directory ∧ after.targetOf path = .ok (.named location))

theorem Extends.spares (adds : Extends before after) (path : List Char) :
    Spares path before after :=
  ⟨adds.workingDirectory, fun location entry lies => .inl (adds.entries location entry lies)⟩

theorem Spares.keepsDirectories (spares : Spares path before after) :
    KeepsDirectories before after where
  workingDirectory := spares.workingDirectory
  directories location isDirectory :=
    (spares.entries location .directory isDirectory).resolve_right fun touched => touched.1 rfl

theorem Spares.trans (first : Spares path before middle) (second : Spares path middle after) :
    Spares path before after where
  workingDirectory := second.workingDirectory.trans first.workingDirectory
  entries location entry lies := by
    rcases first.entries location entry lies with still | ⟨noDirectory, leads⟩
    · exact second.entries location entry still
    · exact .inr ⟨noDirectory, second.keepsDirectories.targetOf leads⟩

theorem spares_clear (files : Files) (path : List Char) : Spares path files (files.clear path) := by
  unfold clear
  rcases perform_unlink_cases files path with
    ⟨place, leads, noDirectory, performed⟩ | ⟨obstacle, _, performed⟩
  · rw [performed]
    refine ⟨rfl, fun location entry lies => ?_⟩
    by_cases same : location = place
    · subst same
      have notDirectory : entry ≠ .directory := fun isDirectory => noDirectory (isDirectory ▸ lies)
      exact .inr ⟨notDirectory, (keepsDirectories_remove noDirectory).targetOf leads⟩
    · exact .inl ((entryAt?_remove_of_ne same).trans lies)
  · rw [performed]
    exact (extends_refl files).spares path

theorem perform_bindSocket (files : Files) (named : path ≠ []) (fits : isAddress path = true) :
    files.perform (bindSocket path)
      = match files.targetOf path with
        | .error obstacle => (.error obstacle, files)
        | .ok (.directory _) => (.error .fileExists, files)
        | .ok (.named location) =>
            if (files.entryAt? location).isSome then (.error .fileExists, files)
            else (.ok location, files.put location .socket) := by
  have notEmpty : path.isEmpty = false := by simp [named]
  unfold bindSocket
  simp only [notEmpty, fits]
  change ExceptT.run (match files.targetOf path with
    | .error obstacle => throw obstacle
    | .ok (.directory _) => throw .fileExists
    | .ok (.named location) =>
        if (files.entryAt? location).isSome then throw .fileExists
        else do
          set (files.put location .socket)
          return location : Action Location) files = _
  split
  · rfl
  · rfl
  · split <;> rfl

/-- A socket is put where nothing is. -/
theorem perform_bindSocket_of_nothing (fits : isAddress path = true)
    (leads : files.targetOf path = .ok (.named location))
    (nothing : files.entryAt? location = none) :
    files.perform (bindSocket path) = (.ok location, files.put location .socket) := by
  rw [perform_bindSocket files (targetOf_eq_ok_iff.mp leads).1 fits, leads]
  simp only [nothing]
  rfl

/-- A path that is too long for an address has no socket bound to it. -/
theorem perform_bindSocket_of_long (named : path ≠ []) (long : ¬ isAddress path = true) :
    files.perform (bindSocket path) = (.error .addressTooLong, files) := by
  have notEmpty : path.isEmpty = false := by simp [named]
  unfold bindSocket
  simp only [notEmpty, long]
  rfl

/-- A socket is put where a path leads to nothing yet, or nothing is done. -/
theorem bindSocket_cases (files : Files) (named : path ≠ []) :
    (∃ location, files.targetOf path = .ok (.named location) ∧ files.entryAt? location = none
        ∧ files.perform (bindSocket path) = (.ok location, files.put location .socket))
      ∨ ∃ obstacle, files.perform (bindSocket path) = (.error obstacle, files) := by
  by_cases fits : isAddress path = true
  · rw [perform_bindSocket files named fits]
    cases leads : files.targetOf path with
    | error obstacle => exact .inr ⟨obstacle, rfl⟩
    | ok goal =>
        cases goal with
        | directory place => exact .inr ⟨.fileExists, rfl⟩
        | named place =>
            cases lies : files.entryAt? place with
            | none => exact .inl ⟨place, rfl, lies, by simp only [lies]; rfl⟩
            | some entry => exact .inr ⟨.fileExists, by simp only [lies]; rfl⟩
  · exact .inr ⟨.addressTooLong, perform_bindSocket_of_long named fits⟩

end Files

namespace SocketFile

theorem perform_prepare (files : Files) (path : List Char) :
    files.perform (prepare path)
      = match files.perform (ensureParent path) with
        | (.error obstacle, after) => (.error obstacle, after)
        | (.ok _, ready) =>
            match ready.perform (unlink path) with
            | (.ok _, after) => (.ok { path }, after)
            | (.error obstacle, after) =>
                if obstacle = .noSuchFile then (.ok { path }, after)
                else (.error obstacle, after) := by
  unfold prepare
  rw [perform_bind]
  rcases files.perform (ensureParent path) with ⟨_ | _, ready⟩
  · rfl
  dsimp only
  rw [perform_bind, perform_tryCatch]
  rcases ready.perform (unlink path) with ⟨obstacle | _, after⟩
  · by_cases missing : obstacle = .noSuchFile
    · simp only [missing, if_true]
      rfl
    · simp only [missing, if_false]
      rfl
  · rfl

/-- Preparing a path touches nothing but what it leads to, and leaves nothing there but a
directory. -/
structure Prepares (path : List Char) (before : Files)
    (result : Except Obstacle SocketFile × Files) : Prop where
  spares : Spares path before result.2
  cleared : ∀ location entry, result.2.find path = .ok (location, entry) → entry = .directory
  fresh : ∀ socket, result.1 = .ok socket → socket = { path }

theorem prepares (files : Files) (path : List Char) :
    Prepares path files (files.perform (prepare path)) := by
  have readies := files.readies_ensureParent path
  rw [perform_prepare]
  rcases made : files.perform (ensureParent path) with ⟨obstacle | _, ready⟩ <;>
    rw [made] at readies
  · refine ⟨readies.adds.spares path, fun location entry found => ?_, nofun⟩
    rcases find_eq_ok_iff.mp found with ⟨leads, _⟩ | ⟨leads, _⟩
    · exact (readies.fails obstacle rfl _ leads).elim
    · exact (readies.fails obstacle rfl _ leads).elim
  have spares := (readies.adds.spares path).trans (ready.spares_clear path)
  have cleared (location : Location) (entry : Entry)
      (found : (ready.clear path).find path = .ok (location, entry)) : entry = .directory :=
    eq_directory_of_find_clear found
  unfold clear at spares cleared
  dsimp only
  rcases unlinked : ready.perform (unlink path) with ⟨obstacle | _, after⟩ <;>
    rw [unlinked] at spares cleared
  · dsimp only
    split
    · exact ⟨spares, cleared, fun socket same => (Except.ok.inj same).symm⟩
    · exact ⟨spares, cleared, nofun⟩
  · exact ⟨spares, cleared, fun socket same => (Except.ok.inj same).symm⟩

/-- Something that is no directory is taken away from a path that leads to it. -/
theorem perform_prepare_of_named (leads : files.targetOf path = .ok (.named location))
    (noDirectory : files.entryAt? location ≠ some .directory) :
    ∃ ready, files.perform (prepare path) = (.ok { path }, ready)
      ∧ ready.targetOf path = .ok (.named location) ∧ ready.entryAt? location = none := by
  rw [perform_prepare, (files.readies_ensureParent path).rests _ leads]
  dsimp only
  rw [perform_unlink, leads]
  cases lies : files.entryAt? location with
  | none =>
      refine ⟨files, ?_, leads, lies⟩
      simp only [lies]
      rfl
  | some entry =>
      have leadsStill := (keepsDirectories_remove noDirectory).targetOf leads
      refine ⟨files.remove location, ?_, leadsStill, entryAt?_remove_self noDirectory⟩
      cases entry with
      | directory => exact absurd lies noDirectory
      | file | socket | device =>
          simp only [lies]

end SocketFile

namespace Server

theorem perform_bind (plan : Daemon.Plan) (files : Files) (path : List Char) :
    files.perform (bind plan path)
      = match files.perform (SocketFile.prepare path) with
        | (.error obstacle, after) => (.error obstacle, after)
        | (.ok socket, ready) =>
            match ready.perform (bindSocket path) with
            | (.ok location, after) =>
                (.ok { socket, location, daemon := .fresh plan { entry := .socket } }, after)
            | (.error obstacle, after) => (.error obstacle, (socket.remove after).2) := by
  unfold bind
  rw [Files.perform_bind]
  rcases files.perform (SocketFile.prepare path) with ⟨_ | socket, ready⟩
  · rfl
  dsimp only
  rw [Files.perform_bind, perform_tryCatch]
  rcases ready.perform (bindSocket path) with ⟨obstacle | location, after⟩ <;> rfl

/-- What refusing to bind leaves behind. -/
structure Refuses (path : List Char) (before after : Files) : Prop where
  /-- Nothing is at the path, unless a directory is. -/
  cleared : ∀ location entry, after.find path = .ok (location, entry) → entry = .directory
  spares : Spares path before after
  directory : ∀ location, before.find path = .ok (location, .directory) →
    after.find path = .ok (location, .directory)

theorem refuses_of_spares (spares : Spares path before after)
    (cleared : ∀ location entry, after.find path = .ok (location, entry) → entry = .directory) :
    Refuses path before after :=
  ⟨cleared, spares, fun _ => spares.keepsDirectories.find⟩

/-- A server that has just been bound. -/
def bound (plan : Daemon.Plan) (path : List Char) (location : Location) : Server :=
  { socket := { path }, location, daemon := .fresh plan { entry := .socket } }

/-- Binding is refused, or leaves the socket of the server at the path. -/
theorem bind_cases (plan : Daemon.Plan) (files : Files) (named : path ≠ []) :
    (∃ obstacle after, files.perform (bind plan path) = (.error obstacle, after)
        ∧ Refuses path files after)
      ∨ ∃ location after, files.perform (bind plan path) = (.ok (bound plan path location), after)
          ∧ Spares path files after ∧ after.Leads path location
          ∧ after.entryAt? location = some .socket := by
  have prepares := SocketFile.prepares files path
  rw [perform_bind]
  rcases prepared : files.perform (SocketFile.prepare path) with ⟨obstacle | socket, ready⟩ <;>
    rw [prepared] at prepares
  · exact .inl ⟨obstacle, ready, rfl, refuses_of_spares prepares.spares prepares.cleared⟩
  obtain rfl := prepares.fresh socket rfl
  rcases bindSocket_cases ready named with ⟨location, leads, nothing, performed⟩ | ⟨obstacle, failed⟩
  · have noDirectory : ready.entryAt? location ≠ some .directory := by simp [nothing]
    have adds := extends_put nothing .socket
    have lies : (ready.put location .socket).entryAt? location = some .socket :=
      entryAt?_put_self noDirectory
    refine .inr ⟨location, ready.put location .socket, by simp only [performed]; rfl,
      prepares.spares.trans (adds.spares path), ?_, lies⟩
    exact leads_of_targetOf (adds.keepsDirectories.targetOf leads) (by simp [lies])
  · refine .inl ⟨obstacle, ready.clear path, by simp only [failed]; rfl, ?_⟩
    exact refuses_of_spares (prepares.spares.trans (ready.spares_clear path)) fun _ _ =>
      eq_directory_of_find_clear

/-- Whatever lies at the end of a path, it does not keep a server from being bound there, unless it
is a directory. -/
theorem perform_bind_of_named (plan : Daemon.Plan) (fits : isAddress path = true)
    (leads : files.targetOf path = .ok (.named location))
    (noDirectory : files.entryAt? location ≠ some .directory) :
    ∃ after, files.perform (bind plan path) = (.ok (bound plan path location), after) := by
  obtain ⟨ready, prepared, leadsStill, nothing⟩ :=
    SocketFile.perform_prepare_of_named leads noDirectory
  rw [perform_bind, prepared]
  dsimp only
  rw [perform_bindSocket_of_nothing fits leadsStill nothing]
  exact ⟨_, rfl⟩

end Server

end AdmissionControl
