import AdmissionControl.Proofs.Daemon.Hosting
import AdmissionControl.Proofs.Daemon.Order

/-!
# The site of a server among files

The site of a daemon is what its files hold where its path ends. To bind a server is to start a
daemon at that site, and a server that serves is a running daemon there: it is reached when the
daemon is, what its peers do is done to the daemon, and what others do at the path changes the site.
To stop it is to stop the daemon.
-/

namespace AdmissionControl

namespace Files

variable {files : Files} {path : List Char} {location : Location}

/-- What lies at a location, as far as a daemon tells it apart. -/
def onSite : Option Entry → Site.Entry
  | none => .nothing
  | some .directory => .directory
  | some .socket => .socket
  | some (.file _) | some .device => .file

/-- The site at a location that a path ends at. Its directory is there. -/
def site (files : Files) (path : List Char) (location : Location) : Site where
  entry := onSite (files.entryAt? location)
  addressable := isAddress path

theorem onSite_eq_directory_iff {lying : Option Entry} :
    onSite lying = .directory ↔ lying = some .directory := by
  rcases lying with _ | _ | _ | _ | _ <;> simp [onSite]

/-- A site whose directory is there can be bound unless a directory is there itself or the path is
too long. -/
theorem bind_site (files : Files) (path : List Char) (location : Location) :
    (files.site path location).bind
      = if files.entryAt? location = some .directory then
          ⟨some .isDirectory, files.site path location⟩
        else if isAddress path then ⟨none, { files.site path location with entry := .socket }⟩
        else ⟨some .addressTooLong, { files.site path location with entry := .nothing }⟩ := by
  simp only [← onSite_eq_directory_iff]
  by_cases isDirectory : onSite (files.entryAt? location) = .directory
  · rw [if_pos isDirectory]
    exact if_pos isDirectory
  · rw [if_neg isDirectory]
    refine (if_neg isDirectory).trans ?_
    have removed : (files.site path location).remove
        = { files.site path location with entry := .nothing } := if_neg isDirectory
    rw [← removed]
    rfl

/-- Clearing the path clears the site. -/
theorem Leads.site_clear (leads : files.Leads path location) :
    (files.clear path).site path location = (files.site path location).remove := by
  unfold site
  rw [leads.clear.2]
  rcases files.entryAt? location with _ | _ | _ | _ | _ <;> rfl

/-- A directory that is put at the location is put on the site. -/
theorem site_put_directory (files : Files) (path : List Char) (location : Location) :
    (files.put location .directory).site path location
      = (files.site path location).putDirectory := by
  have lies : (files.put location .directory).entryAt? location = some .directory := by
    by_cases isDirectory : files.entryAt? location = some .directory
    · unfold entryAt? put
      simp
    · exact entryAt?_put_self isDirectory
  unfold site
  rw [lies]
  rfl

/-- Who connects to the path comes to the socket at its end. -/
theorem Leads.socketAt_eq_ok_iff (leads : files.Leads path location)
    (fits : isAddress path = true) (other : Location) :
    files.socketAt path = .ok other
      ↔ other = location ∧ (files.site path location).entry = .socket := by
  obtain ⟨_, notNull, _⟩ := targetOf_eq_ok_iff.mp leads.targetOf
  have notAbstract : path.head? ≠ some '\x00' := fun first => notNull (List.mem_of_head? first)
  have found := find_of_named leads.targetOf
  unfold socketAt site
  simp only [notAbstract, fits, List.contains_eq_mem, notNull, decide_false, if_false,
    Bool.not_true, Bool.false_eq_true, found]
  rcases files.entryAt? location with _ | _ | _ | _ | _ <;> simp [onSite, eq_comm]

end Files

namespace Daemon

section Changing

variable (plan : Plan) (daemon : Daemon) (change : Site → Site)

/-- What lies at the site does not bear on what becomes of waiting connections. -/
theorem submitFrom_changeSite (waiting : List (Nat × Inbox)) :
    (daemon.changeSite change).submitFrom plan waiting
      = (daemon.submitFrom plan waiting).changeSite change := by
  induction waiting generalizing daemon with
  | nil => rfl
  | cons entry rest inductionHypothesis =>
      obtain ⟨number, inbox⟩ := entry
      have samePool : (daemon.changeSite change).pool = daemon.pool := rfl
      unfold submitFrom
      rw [samePool]
      split
      · exact inductionHypothesis
          { daemon with pool := (daemon.pool.submit plan.pool inbox).pool }
      · rfl

theorem act_changeSite (number : Nat) (action : PeerAction) :
    (daemon.changeSite change).act plan number action
      = (daemon.act plan number action).changeSite change :=
  submitFrom_changeSite plan
    { daemon.leaveWord number action with pool := daemon.pool.act plan.pool number action } change _

/-- Connections do nothing to the site. -/
theorem site_submitFrom (waiting : List (Nat × Inbox)) :
    (daemon.submitFrom plan waiting).site = daemon.site := by
  have same : daemon.changeSite (fun _ => daemon.site) = daemon := rfl
  rw [← same, submitFrom_changeSite]
  rfl

theorem site_act (number : Nat) (action : PeerAction) :
    (daemon.act plan number action).site = daemon.site :=
  site_submitFrom plan
    { daemon.leaveWord number action with pool := daemon.pool.act plan.pool number action } _

theorem site_connect {number : Nat} {after : Daemon}
    (connected : daemon.connect plan = some (number, after)) : after.site = daemon.site := by
  unfold Daemon.connect at connected
  split at connected
  · cases connected
    exact site_submitFrom plan
      { daemon with waiting := daemon.waiting ++ [(daemon.nextNumber, {})] } _
  · cases connected

/-- A connection is opened at a changed site if the change does not bear on that. -/
theorem connect_changeSite
    (same : (daemon.changeSite change).isReachable = daemon.isReachable) :
    (daemon.changeSite change).connect plan
      = (daemon.connect plan).map fun opened => (opened.1, opened.2.changeSite change) := by
  unfold Daemon.connect
  rw [same]
  split
  · refine congrArg (fun after => some (daemon.nextNumber, after)) ?_
    exact submitFrom_changeSite plan
      { daemon with waiting := daemon.waiting ++ [(daemon.nextNumber, {})] } change _
  · rfl

end Changing

end Daemon

namespace Server

variable {plan : Daemon.Plan} {files : Files} {path : List Char} {location : Location}
  {server : Server}

/-- The daemon of a server, at the site that the files make. -/
def atSite (server : Server) (files : Files) : Daemon :=
  server.daemon.changeSite fun _ => files.site server.socket.path server.location

section Binding

/-- What an attempt to bind a server comes to at its site. -/
def startAt (path : List Char) (location : Location) :
    Except Obstacle Server × Files → Daemon.Start
  | (.ok server, files) => .bound (server.atSite files)
  | (.error obstacle, files) => .refused obstacle (files.site path location)

/-- Where only a directory is missing that can be made, the server is bound as if it were there. -/
theorem perform_bind_of_ready {ready : Files}
    (made : files.perform (Files.ensureParent path) = (.ok (), ready))
    (leads : ready.targetOf path = .ok (.named location)) :
    files.perform (bind plan path) = ready.perform (bind plan path) := by
  have rests := (ready.readies_ensureParent path).rests _ leads
  have prepares : files.perform (SocketFile.prepare path)
      = ready.perform (SocketFile.prepare path) := by
    rw [SocketFile.perform_prepare, SocketFile.perform_prepare, made, rests]
  rw [perform_bind, perform_bind, prepares]

/-- To bind a server is to start a daemon at its site: it is refused for the same reason, and leaves
the same there. -/
theorem startAt_bind (plan : Daemon.Plan) (leads : files.targetOf path = .ok (.named location)) :
    startAt path location (files.perform (bind plan path))
      = Daemon.start plan (files.site path location) := by
  have named : path ≠ [] := (Files.targetOf_eq_ok_iff.mp leads).1
  by_cases isDirectory : files.entryAt? location = some .directory
  · have refused : files.perform (SocketFile.prepare path) = (.error .isDirectory, files) := by
      rw [SocketFile.perform_prepare, (files.readies_ensureParent path).rests _ leads]
      dsimp only
      rw [Files.perform_unlink, leads]
      simp only [isDirectory]
      rfl
    rw [perform_bind, refused, Daemon.start, Files.bind_site, if_pos isDirectory]
    rfl
  obtain ⟨ready, prepared, leadsStill, nothing⟩ :=
    SocketFile.perform_prepare_of_named leads isDirectory
  rw [perform_bind, prepared, Daemon.start, Files.bind_site, if_neg isDirectory]
  dsimp only
  by_cases fits : Files.isAddress path = true
  · have lies : (ready.put location .socket).entryAt? location = some .socket :=
      Files.entryAt?_put_self (by simp [nothing])
    have site : (ready.put location .socket).site path location
        = { files.site path location with entry := .socket } := by
      unfold Files.site
      rw [lies]
      rfl
    rw [Files.perform_bindSocket_of_nothing fits leadsStill nothing, if_pos fits]
    exact congrArg (fun site => Daemon.Start.bound (.fresh plan site)) site
  · have cleared := (Files.leads_of_targetOf leadsStill (by simp [nothing])).site_clear
    have site : (ready.clear path).site path location
        = { files.site path location with entry := .nothing } := by
      rw [cleared]
      unfold Files.site
      rw [nothing]
      rfl
    rw [Files.perform_bindSocket_of_long named fits, if_neg fits]
    exact congrArg (Daemon.Start.refused .addressTooLong) site

end Binding

section Serving

/-- A connection to the path comes to the server when one comes to a daemon at its site. -/
theorem isReachable_eq (leads : files.Leads server.socket.path server.location)
    (fits : Files.isAddress server.socket.path = true)
    (socket : server.daemon.site.entry = .socket) :
    server.isReachable files server.socket.path = (server.atSite files).isReachable := by
  have reached := leads.socketAt_eq_ok_iff fits server.location
  rw [Bool.eq_iff_iff]
  unfold isReachable atSite Daemon.changeSite Daemon.isReachable
  simp only [socket, beq_self_eq_true, Bool.and_true, Bool.and_eq_true, beq_iff_eq]
  refine and_congr_right fun _ => ?_
  cases leadsTo : files.socketAt server.socket.path with
  | error obstacle => simpa [leadsTo, Except.toOption] using reached
  | ok other => simpa [leadsTo, Except.toOption] using reached

/-- A connection to a server that serves is opened to a daemon at its site. -/
theorem connect_eq (serving : server.stage = .serving)
    (socket : server.daemon.site.entry = .socket)
    (reachable : (server.atSite files).isReachable = true) :
    (server.connect plan).map (fun opened => (opened.1, opened.2.atSite files))
      = (server.atSite files).connect plan := by
  have listening : server.daemon.listening = true := (Bool.and_eq_true_iff.mp reachable).1
  have same : (server.atSite files).isReachable = server.daemon.isReachable := by
    rw [reachable]
    simp [Daemon.isReachable, listening, socket]
  have opens : (server.atSite files).connect plan = _ :=
    Daemon.connect_changeSite plan server.daemon _ same
  unfold connect
  rw [serving, opens, Option.map_map]
  rfl

theorem site_connect (serving : server.stage = .serving) {number : Nat} {opened : Server}
    (connected : server.connect plan = some (number, opened)) :
    opened.daemon.site = server.daemon.site := by
  unfold connect at connected
  rw [serving] at connected
  obtain ⟨⟨other, daemon⟩, found, same⟩ := Option.map_eq_some_iff.mp connected
  cases same
  exact Daemon.site_connect plan server.daemon found

theorem act_of_serving (serving : server.stage = .serving) (number : Nat) (action : PeerAction) :
    server.act plan number action
      = { server with daemon := server.daemon.act plan number action } := by
  unfold Server.act
  rw [serving]

end Serving

end Server

namespace Host

variable {plan : Daemon.Plan} {host after : Host} {path : List Char} {location : Location}
  {number : Nat}

/-- The daemon of the server, at the site that the files make. -/
def atSite (host : Host) : Daemon := host.server.atSite host.files

/-- A server that serves is a running daemon at its site. -/
structure Serves (plan : Daemon.Plan) (path : List Char) (location : Location) (host : Host) :
    Prop where
  holds : host.Holds path location
  fits : Files.isAddress path = true
  serving : host.server.stage = .serving
  socket : host.server.daemon.site.entry = .socket
  running : Daemon.Running plan host.atSite

/-- A connection is opened to the server when one is to the daemon at its site, and to both. -/
theorem Serves.connect_eq (serves : host.Serves plan path location) :
    (host.connect plan).map (fun opened => (opened.1, opened.2.atSite))
      = host.atSite.connect plan := by
  obtain ⟨⟨atPath, atLocation, _, leads, _⟩, fits, serving, socket, _⟩ := serves
  subst atPath atLocation
  have reachable := Server.isReachable_eq leads fits socket
  unfold Host.connect
  rw [reachable]
  split
  · next reached =>
    refine Eq.trans ?_ (Server.connect_eq serving socket reached)
    rw [Option.map_map]
    rfl
  · next unreached => exact (if_neg unreached).symm

/-- Something has happened on connections or with the limiter, to the daemon at the site as much as
to the server. -/
theorem Serves.quiet (serves : host.Serves plan path location) (quiet : Quiet host after)
    (site : after.server.daemon.site = host.server.daemon.site)
    (running : Daemon.Running plan after.atSite) : after.Serves plan path location := by
  have holds := (serves.holds.quiet quiet).1
  obtain ⟨_, ⟨daemon, server⟩, _⟩ := quiet
  refine ⟨holds, serves.fits, ?_, site ▸ serves.socket, running⟩
  rw [server]
  exact serves.serving

theorem Serves.connect (serves : host.Serves plan path location)
    (connected : host.connect plan = some (number, after)) : after.Serves plan path location := by
  have opened : host.atSite.connect plan = some (number, after.atSite) := by
    rw [← serves.connect_eq, connected]
    rfl
  refine serves.quiet (quiet_connect connected) ?_ (serves.running.connect opened)
  obtain ⟨server, found, rfl⟩ := exists_of_connect connected
  exact Server.site_connect serves.serving found

/-- What a peer does on its connection it does to the daemon at the site. -/
theorem Serves.act (serves : host.Serves plan path location) (number : Nat) (action : PeerAction) :
    (host.act plan number action).Serves plan path location := by
  have acts : host.server.act plan number action = _ :=
    Server.act_of_serving serves.serving number action
  have atSite : (host.act plan number action).atSite = host.atSite.act plan number action := by
    unfold Host.act Host.atSite
    rw [acts]
    exact (Daemon.act_changeSite plan host.server.daemon _ number action).symm
  refine serves.quiet (quiet_act plan host number action) ?_ ?_
  · unfold Host.act
    rw [acts]
    exact Daemon.site_act plan host.server.daemon number action
  · rw [atSite]
    exact serves.running.act number action

theorem Serves.send (serves : host.Serves plan path location) (number : Nat)
    (bytes : List UInt8) :
    ((transport plan).send host number bytes).2.Serves plan path location := by
  rcases send_cases plan host number bytes with unchanged | acted
  · rw [unchanged]
    exact serves
  · rw [acted]
    exact serves.act number (.send bytes)

theorem Serves.call (serves : host.Serves plan path location) (caller : Nat)
    (errand : Client.Errand) : (host.call plan caller errand).Serves plan path location := by
  have keeps : (transport plan).Keeps (Serves plan path location) :=
    { connect := fun serves connected => serves.connect connected
      send := fun serves number bytes => serves.send number bytes
      hangUp := fun serves number => serves.act number .leave }
  obtain ⟨holds, fits, serving, socket, running⟩ :=
    keeps.carryOut serves (host.clients caller) errand
  exact ⟨⟨holds.atPath, holds.atLocation, holds.removed, holds.leads, holds.accounts⟩, fits,
    serving, socket, running⟩

/-- Others who take away what lies at the path clear the site. -/
theorem Holds.takeAway_eq (holds : host.Holds path location) :
    (host.intrude .takeAway).atSite = host.atSite.changeSite Site.remove := by
  obtain ⟨atPath, atLocation, _, leads, _⟩ := holds
  subst atPath atLocation
  exact congrArg (fun site => host.server.daemon.changeSite fun _ => site) leads.site_clear

/-- A directory that others put at the path is put on the site. -/
theorem putDirectory_eq (host : Host) :
    (host.intrude .putDirectory).atSite = host.atSite.changeSite Site.putDirectory :=
  congrArg (fun site => host.server.daemon.changeSite fun _ => site)
    (Files.site_put_directory host.files host.server.socket.path host.server.location)

/-- Whatever others do at the path, it changes only the site. -/
theorem Serves.intrude (serves : host.Serves plan path location) (intrusion : Intrusion) :
    (host.intrude intrusion).Serves plan path location := by
  have running := serves.running.changeSite fun _ =>
    (host.intrude intrusion).files.site host.server.socket.path host.server.location
  exact ⟨serves.holds.intrude intrusion, serves.fits, serves.serving, serves.socket, running⟩

/-- One step that does not tell the server to stop. -/
theorem Serves.step (serves : host.Serves plan path location) {step : Step}
    (goesOn : step ≠ .stop) : (host.step plan step).Serves plan path location := by
  cases step with
  | stop => exact absurd rfl goesOn
  | connect =>
      unfold Host.step
      cases connected : host.connect plan with
      | none => exact serves
      | some opened => exact serves.connect connected
  | act number action => exact serves.act number action
  | call caller errand => exact serves.call caller errand
  | operate operation =>
      exact serves.quiet (quiet_operate plan host operation) rfl (serves.running.operate operation)
  | intrude intrusion => exact serves.intrude intrusion
  | serve | finish | drop =>
      unfold Host.step
      rwa [serves.serving]

/-- Any steps before the server is told to stop. -/
theorem Serves.run (serves : host.Serves plan path location) {steps : List Step}
    (goesOn : ∀ step ∈ steps, step ≠ .stop) : (host.run plan steps).Serves plan path location := by
  induction steps generalizing host with
  | nil => exact serves
  | cons step rest inductionHypothesis =>
      exact inductionHypothesis (serves.step (goesOn step List.mem_cons_self)) fun later member =>
        goesOn later (List.mem_cons_of_mem step member)

/-- To stop the server is to stop the daemon at its site. -/
theorem Serves.stop_eq (serves : host.Serves plan path location) :
    (host.run plan [.stop, .finish]).atSite = (host.atSite.stop plan).daemon := by
  have lived : host.server.stage ≠ .ended := by simp [serves.serving]
  have cleared := serves.holds.remove_of_lived lived
  have removed : ((host.server.beginStop plan).endStop plan host.files)
      = ({ host.server with
          socket := { host.server.socket with removed := true }
          daemon := (host.server.daemon.stop plan).daemon
          stage := .ended }, host.files.clear path) := by
    unfold Server.beginStop Server.endStop Server.removeSocket
    dsimp only
    rw [cleared, Daemon.endStop_beginStop]
  have site : (host.files.clear path).site host.server.socket.path host.server.location
      = (host.files.site host.server.socket.path host.server.location).remove := by
    rw [serves.holds.atPath, serves.holds.atLocation]
    exact serves.holds.leads.site_clear
  rw [run_stop serves.serving, removed]
  unfold withBoth Host.atSite Server.atSite
  dsimp only
  rw [site]
  rfl

/-- A server that has been bound and begins to serve is a daemon that was started at its site. -/
theorem serves_of_bind {files left : Files} {server : Server}
    (leads : files.targetOf path = .ok (.named location))
    (binds : files.perform (Server.bind plan path) = (.ok server, left)) :
    (Host.run plan { files := left, server } [.serve]).Serves plan path location := by
  have started : Daemon.start plan (files.site path location) = .bound (server.atSite left) := by
    rw [← Server.startAt_bind plan leads, binds]
    rfl
  have fits : Files.isAddress path = true := by
    unfold Daemon.start at started
    split at started
    · next binds =>
      exact ((Site.obstacle_bind_eq_none_iff _).mp (congrArg Site.Binding.obstacle binds)).2.2
    · cases started
  rcases Server.bind_cases plan files (Files.targetOf_eq_ok_iff.mp leads).1 with
    ⟨obstacle, after, refused, _⟩ | ⟨place, after, bound, spares, leadsThere, _⟩
  · rw [refused] at binds
    cases binds
  rw [bound] at binds
  cases binds
  obtain rfl : location = place := by
    have still := spares.keepsDirectories.targetOf leads
    rw [leadsThere.targetOf] at still
    cases still
    rfl
  have accounts := Server.accounts_bound plan path location
  have holds : Holds path location { files := left, server := Server.bound plan path location } :=
    ⟨rfl, rfl, iff_of_false nofun nofun, leadsThere, accounts⟩
  exact ⟨holds.run [.serve], fits, rfl, rfl, .start started⟩

end Host

end AdmissionControl
