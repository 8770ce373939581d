import AdmissionControl.Proofs.Client.RoundTrips
import AdmissionControl.Proofs.Daemon.Binding
import AdmissionControl.Proofs.Daemon.Closing

/-!
# The life of a socket file

From the time a server is bound to a path until it ends, nothing but others takes its socket away.
At its end it takes away what lies there, once, but no directory; then all its connections are
closed, no further ones can be opened, and nothing that is done with it touches a file.
-/

namespace AdmissionControl

open Files

section Calls

variable {σ κ : Type} {transport : Transport σ κ} {holds : σ → Prop} {world : σ}

/-- What holds of a world whatever is done with its connections. -/
structure Transport.Keeps (transport : Transport σ κ) (holds : σ → Prop) : Prop where
  connect : ∀ {world opened : σ} {connection : κ}, holds world →
    transport.connect world = some (connection, opened) → holds opened
  send : ∀ {world : σ}, holds world → ∀ connection bytes,
    holds (transport.send world connection bytes).2
  hangUp : ∀ {world : σ}, holds world → ∀ connection, holds (transport.hangUp world connection)

theorem Transport.Keeps.settle {α : Type} (keeps : transport.Keeps holds) (held : holds world)
    (link : Client.Link κ) (arrival : Arrival) (accept : List Char → Except Wire.Fault α) :
    holds (Client.settle transport link world arrival accept).world := by
  have dropped := keeps.hangUp held link.connection
  unfold Client.settle
  dsimp only
  split
  · exact dropped
  · split
    · exact dropped
    · exact dropped
    · split
      · exact dropped
      · split
        · exact dropped
        · exact held

theorem Transport.Keeps.ensureLink (keeps : transport.Keeps holds) (held : holds world)
    {client : Client κ} {link : Client.Link κ} {opened : σ}
    (linked : client.ensureLink transport world = some (link, opened)) : holds opened := by
  unfold Client.ensureLink at linked
  split at linked
  · cases linked
    exact held
  · obtain ⟨⟨connection, after⟩, connected, same⟩ := Option.map_eq_some_iff.mp linked
    cases same
    exact keeps.connect held connected

/-- A client only opens connections, sends on them and hangs up. -/
theorem Transport.Keeps.carryOut (keeps : transport.Keeps holds) (held : holds world)
    (client : Client κ) (errand : Client.Errand) :
    holds (errand.carryOut transport client world).world := by
  rw [Client.Errand.carryOut_eq]
  dsimp only
  unfold Client.call
  split
  · exact held
  · next link opened linked =>
    have sent := keeps.send (keeps.ensureLink held linked) link.connection
      (Text.encode errand.request.encode)
    exact keeps.settle sent link _ errand.accept

end Calls

namespace Server

variable {plan : Daemon.Plan} {server after : Server} {opened : List Nat} {number : Nat}

/-- What has become of the connections that were opened to a daemon, as far as its server has
come. -/
inductive Stage.Accounts (opened : List Nat) : Stage → Daemon → Prop
  | bound {daemon : Daemon} (accepts : daemon.Accepts opened)
      (unserved : daemon.pool.numbers = []) : Accounts opened .bound daemon
  | serving {daemon : Daemon} (accepts : daemon.Accepts opened) : Accounts opened .serving daemon
  | stopping {daemon : Daemon} (stops : daemon.Stops opened) : Accounts opened .stopping daemon
  | ended {daemon : Daemon} (isOver : daemon.IsOver opened) : Accounts opened .ended daemon

/-- The connections that were opened to a server are accounted for. -/
def Accounts (opened : List Nat) (server : Server) : Prop :=
  server.stage.Accounts opened server.daemon

theorem accounts_bound (plan : Daemon.Plan) (path : List Char) (location : Location) :
    (bound plan path location).Accounts [] := .bound (Daemon.accepts_fresh plan _) rfl

theorem exists_of_connect (connected : server.connect plan = some (number, after)) :
    ∃ daemon, after = { server with daemon } := by
  obtain ⟨⟨other, daemon⟩, _, same⟩ := Option.map_eq_some_iff.mp connected
  cases same
  exact ⟨daemon, rfl⟩

/-- A connection comes in. -/
theorem Accounts.connect (accounts : server.Accounts opened)
    (connected : server.connect plan = some (number, after)) :
    after.Accounts (opened ++ [number]) := by
  obtain ⟨socket, location, daemon, stage⟩ := server
  obtain ⟨⟨other, later⟩, found, same⟩ := Option.map_eq_some_iff.mp connected
  cases same
  cases accounts with
  | bound accepts unserved =>
      exact .bound (accepts.knock found) (by rw [Daemon.pool_knock found, unserved])
  | serving accepts => exact .serving (accepts.connect found)
  | stopping stops =>
      cases (Daemon.connect_of_not_listening stops.listening).symm.trans found
  | ended isOver =>
      cases (Daemon.connect_of_not_listening isOver.listening).symm.trans found

/-- A peer acts on its connection. -/
theorem Accounts.act (accounts : server.Accounts opened) (number : Nat) (action : PeerAction) :
    (server.act plan number action).Accounts opened := by
  obtain ⟨socket, location, daemon, stage⟩ := server
  cases accounts with
  | bound accepts unserved => exact .bound (accepts.leaveWord number action) unserved
  | serving accepts => exact .serving (accepts.act number action)
  | stopping stops => exact .stopping (stops.act number action)
  | ended isOver =>
      refine .ended ?_
      change Daemon.IsOver opened (daemon.act plan number action)
      rwa [isOver.act]

/-- Sending bytes does to a server what its peer does, or nothing. -/
theorem exchange_cases (plan : Daemon.Plan) (server : Server) (number : Nat)
    (bytes : List UInt8) :
    (server.exchange plan number bytes).2 = server
      ∨ (server.exchange plan number bytes).2 = server.act plan number (.send bytes) := by
  obtain ⟨socket, location, daemon, stage⟩ := server
  cases stage with
  | bound =>
      unfold Server.exchange
      dsimp only
      split
      · exact .inr rfl
      · exact .inl rfl
  | serving | stopping | ended =>
      rcases daemon.exchange_cases plan number bytes with unchanged | acted
      · exact .inl (congrArg (Server.mk socket location · _) unchanged)
      · exact .inr (congrArg (Server.mk socket location · _) acted)

theorem Accounts.operate (accounts : server.Accounts opened) (operation : Limiter.Operation) :
    Accounts opened { server with daemon := server.daemon.operate plan operation } := by
  obtain ⟨socket, location, daemon, stage⟩ := server
  cases accounts with
  | bound accepts unserved => exact .bound (accepts.operate operation) unserved
  | serving accepts => exact .serving (accepts.operate operation)
  | stopping stops => exact .stopping (stops.operate operation)
  | ended isOver => exact .ended (isOver.operate operation)

end Server

namespace Host

variable {plan : Daemon.Plan} {host before middle after : Host} {path : List Char}
  {location : Location} {number : Nat}

section Connections

/-- Nothing has happened but on connections and with the limiter. -/
structure Quiet (before after : Host) : Prop where
  files : after.files = before.files
  server : ∃ daemon, after.server = { before.server with daemon }
  accounts : before.server.Accounts before.opened → after.server.Accounts after.opened

theorem quiet_refl (host : Host) : Quiet host host := ⟨rfl, ⟨host.server.daemon, rfl⟩, id⟩

theorem Quiet.trans (first : Quiet before middle) (second : Quiet middle after) :
    Quiet before after where
  files := second.files.trans first.files
  server := by
    obtain ⟨_, earlier⟩ := first.server
    obtain ⟨daemon, later⟩ := second.server
    exact ⟨daemon, by rw [later, earlier]⟩
  accounts := second.accounts ∘ first.accounts

/-- A connection that is opened is opened to the server. -/
theorem exists_of_connect (connected : host.connect plan = some (number, after)) :
    ∃ server, host.server.connect plan = some (number, server)
      ∧ after = { host with server, opened := host.opened ++ [number] } := by
  unfold Host.connect at connected
  split at connected
  · obtain ⟨⟨other, server⟩, found, same⟩ := Option.map_eq_some_iff.mp connected
    cases same
    exact ⟨server, found, rfl⟩
  · cases connected

theorem quiet_connect (connected : host.connect plan = some (number, after)) :
    Quiet host after := by
  obtain ⟨server, found, rfl⟩ := exists_of_connect connected
  exact ⟨rfl, Server.exists_of_connect found, fun accounts => accounts.connect found⟩

theorem quiet_act (plan : Daemon.Plan) (host : Host) (number : Nat) (action : PeerAction) :
    Quiet host (host.act plan number action) :=
  ⟨rfl, ⟨_, rfl⟩, fun accounts => accounts.act number action⟩

/-- Sending bytes does what its peer does, or nothing. -/
theorem send_cases (plan : Daemon.Plan) (host : Host) (number : Nat) (bytes : List UInt8) :
    ((transport plan).send host number bytes).2 = host
      ∨ ((transport plan).send host number bytes).2 = host.act plan number (.send bytes) :=
  (host.server.exchange_cases plan number bytes).imp
    (congrArg fun server => { host with server }) (congrArg fun server => { host with server })

theorem quiet_send (plan : Daemon.Plan) (host : Host) (number : Nat) (bytes : List UInt8) :
    Quiet host ((transport plan).send host number bytes).2 := by
  rcases send_cases plan host number bytes with unchanged | acted
  · rw [unchanged]
    exact quiet_refl host
  · rw [acted]
    exact quiet_act plan host number (.send bytes)

theorem quiet_call (plan : Daemon.Plan) (host : Host) (caller : Nat) (errand : Client.Errand) :
    Quiet host (host.call plan caller errand) := by
  have keeps : (transport plan).Keeps (Quiet host) :=
    { connect := fun quiet connected => quiet.trans (quiet_connect connected)
      send := fun quiet number bytes => quiet.trans (quiet_send plan _ number bytes)
      hangUp := fun quiet number => quiet.trans (quiet_act plan _ number .leave) }
  obtain ⟨files, server, accounts⟩ :=
    keeps.carryOut (quiet_refl host) (host.clients caller) errand
  exact ⟨files, server, accounts⟩

theorem quiet_operate (plan : Daemon.Plan) (host : Host) (operation : Limiter.Operation) :
    Quiet host (host.step plan (.operate operation)) :=
  ⟨rfl, ⟨_, rfl⟩, fun accounts => accounts.operate operation⟩

end Connections

section Steps

/-- Whether others change what lies at the path. -/
def Step.isIntrusion : Step → Bool
  | .intrude _ => true
  | .connect | .act _ _ | .call _ _ | .operate _ | .serve | .stop | .finish | .drop => false

/-- What holds of a server and its path from the time it is bound. -/
structure Holds (path : List Char) (location : Location) (host : Host) : Prop where
  atPath : host.server.socket.path = path
  atLocation : host.server.location = location
  removed : host.server.socket.removed = true ↔ host.server.stage = .ended
  leads : host.files.Leads path location
  accounts : host.server.Accounts host.opened

/-- What the server does to its files: nothing, or it ends and clears its path. -/
inductive Passes (path : List Char) (before after : Host) : Prop
  | goesOn (files : after.files = before.files)
      (stage : after.server.stage = .ended ↔ before.server.stage = .ended)
  | ends (files : after.files = before.files.clear path)
      (lived : before.server.stage ≠ .ended) (ended : after.server.stage = .ended)

theorem Holds.quiet (holds : host.Holds path location) (quiet : Quiet host after) :
    after.Holds path location ∧ Passes path host after := by
  obtain ⟨files, ⟨daemon, server⟩, accounts⟩ := quiet
  have stage : after.server.stage = host.server.stage := by rw [server]
  refine ⟨⟨?_, ?_, ?_, ?_, accounts holds.accounts⟩, .goesOn files (by rw [stage])⟩
  · rw [server]
    exact holds.atPath
  · rw [server]
    exact holds.atLocation
  · rw [server]
    exact holds.removed
  · rw [files]
    exact holds.leads

/-- Once the server has ended, its socket file does nothing. -/
theorem Holds.removeSocket_of_ended (holds : host.Holds path location)
    (ended : host.server.stage = .ended) :
    host.withBoth (host.server.removeSocket host.files) = host := by
  have removed : host.server.socket.remove host.files = (host.server.socket, host.files) :=
    if_pos (holds.removed.mpr ended)
  unfold withBoth Server.removeSocket
  rw [removed]

/-- The server goes on to another stage. -/
theorem Holds.moveOn (holds : host.Holds path location) (lived : host.server.stage ≠ .ended)
    {daemon : Daemon} {stage : Server.Stage} (lives : stage ≠ .ended)
    (accounts : stage.Accounts host.opened daemon) :
    let after := { host with server := { host.server with daemon, stage } }
    after.Holds path location ∧ Passes path host after :=
  ⟨⟨holds.atPath, holds.atLocation, holds.removed.trans (iff_of_false lived lives), holds.leads,
    accounts⟩, .goesOn rfl (iff_of_false lives lived)⟩

/-- Until then it clears the path. -/
theorem Holds.remove_of_lived (holds : host.Holds path location)
    (lived : host.server.stage ≠ .ended) :
    host.server.socket.remove host.files
      = ({ host.server.socket with removed := true }, host.files.clear path) := by
  rw [← holds.atPath]
  exact if_neg (mt holds.removed.mp lived)

/-- The end of the server clears its path. -/
theorem Holds.end (holds : host.Holds path location) (lived : host.server.stage ≠ .ended)
    {daemon : Daemon} (isOver : daemon.IsOver host.opened) :
    let after := host.withBoth
      ({ host.server with daemon, stage := .ended }.removeSocket host.files)
    after.Holds path location ∧ Passes path host after := by
  unfold withBoth Server.removeSocket
  rw [holds.remove_of_lived lived]
  obtain ⟨sameElsewhere, _⟩ := holds.leads.clear
  exact ⟨⟨holds.atPath, holds.atLocation, iff_of_true rfl rfl,
    holds.leads.of_sameElsewhere sameElsewhere, .ended isOver⟩, .ends rfl lived rfl⟩

/-- Others change nothing but what lies at the path. -/
theorem Holds.intrude (holds : host.Holds path location) (intrusion : Intrusion) :
    (host.intrude intrusion).Holds path location := by
  have same : SameElsewhere location host.files (host.intrude intrusion).files := by
    cases intrusion with
    | takeAway => exact (holds.atPath ▸ holds.leads).clear.1
    | putDirectory => exact holds.atLocation ▸ sameElsewhere_put _ _ _
    | putFile text => exact holds.atLocation ▸ sameElsewhere_put _ _ _
  exact ⟨holds.atPath, holds.atLocation, holds.removed, holds.leads.of_sameElsewhere same,
    holds.accounts⟩

/-- A step of the server or its clients. Only the end of the server does anything to files. -/
theorem Holds.ownStep (holds : host.Holds path location) {step : Step}
    (own : step.isIntrusion = false) :
    (host.step plan step).Holds path location ∧ Passes path host (host.step plan step) := by
  have still : host.Holds path location ∧ Passes path host host := ⟨holds, .goesOn rfl Iff.rfl⟩
  have accounts := holds.accounts
  unfold Server.Accounts at accounts
  cases step with
  | intrude intrusion => cases own
  | connect =>
      unfold Host.step
      cases connected : host.connect plan with
      | none => exact still
      | some opened => exact holds.quiet (quiet_connect connected)
  | act number action => exact holds.quiet (quiet_act plan host number action)
  | call caller errand => exact holds.quiet (quiet_call plan host caller errand)
  | operate operation => exact holds.quiet (quiet_operate plan host operation)
  | serve =>
      unfold Host.step
      cases stage : host.server.stage with
      | bound =>
          rw [stage] at accounts
          cases accounts with
          | bound accepts unserved =>
              exact holds.moveOn (by simp [stage]) nofun (.serving accepts.proceed)
      | serving | stopping | ended => exact still
  | stop =>
      unfold Host.step
      cases stage : host.server.stage with
      | serving =>
          rw [stage] at accounts
          cases accounts with
          | serving accepts =>
              exact holds.moveOn (by simp [stage]) nofun (.stopping accepts.beginStop)
      | ended =>
          dsimp only
          rwa [holds.removeSocket_of_ended stage]
      | bound | stopping => exact still
  | finish =>
      unfold Host.step
      cases stage : host.server.stage with
      | stopping =>
          rw [stage] at accounts
          cases accounts with
          | stopping stops => exact holds.end (by simp [stage]) stops.endStop
      | bound | serving | ended => exact still
  | drop =>
      unfold Host.step
      cases stage : host.server.stage with
      | bound =>
          rw [stage] at accounts
          cases accounts with
          | bound accepts unserved => exact holds.end (by simp [stage]) (accepts.discard unserved)
      | ended =>
          dsimp only
          rwa [holds.removeSocket_of_ended stage]
      | serving | stopping => exact still

/-- One step. -/
theorem Holds.step (holds : host.Holds path location) (step : Step) :
    (host.step plan step).Holds path location := by
  cases step with
  | intrude intrusion => exact holds.intrude intrusion
  | connect | act | call | operate | serve | stop | finish | drop => exact (holds.ownStep rfl).1

/-- Any steps. -/
theorem Holds.run (holds : host.Holds path location) (steps : List Step) :
    (host.run plan steps).Holds path location := by
  induction steps generalizing host with
  | nil => exact holds
  | cons step rest inductionHypothesis => exact inductionHypothesis (holds.step step)

theorem Passes.trans (first : Passes path before middle) (second : Passes path middle after) :
    Passes path before after := by
  cases first with
  | goesOn files stage =>
      cases second with
      | goesOn filesLater stageLater =>
          exact .goesOn (filesLater.trans files) (stageLater.trans stage)
      | ends filesLater lived ended =>
          exact .ends (files ▸ filesLater) (mt stage.mpr lived) ended
  | ends files lived ended =>
      cases second with
      | goesOn filesLater stageLater =>
          exact .ends (filesLater.trans files) lived (stageLater.mpr ended)
      | ends _ livedLater _ => exact absurd ended livedLater

/-- Any steps of the server and its clients. -/
theorem Holds.passes_run (holds : host.Holds path location) {steps : List Step}
    (own : ∀ step ∈ steps, step.isIntrusion = false) : Passes path host (host.run plan steps) := by
  induction steps generalizing host with
  | nil => exact .goesOn rfl Iff.rfl
  | cons step rest inductionHypothesis =>
      obtain ⟨next, passes⟩ :
          (host.step plan step).Holds path location ∧ Passes path host (host.step plan step) :=
        holds.ownStep (own step List.mem_cons_self)
      exact passes.trans (inductionHypothesis next fun later member =>
        own later (List.mem_cons_of_mem step member))

end Steps

section Ending

/-- A directory at the path stays. -/
theorem Passes.find_directory (passes : Passes path before after)
    (leads : before.files.Leads path location)
    (found : before.files.find path = .ok (location, .directory)) :
    after.files.find path = .ok (location, .directory) := by
  cases passes with
  | goesOn files stage => rw [files, found]
  | ends files lived ended => rw [files, leads.find_clear, if_pos (leads.find_eq_ok_iff.mp found)]

/-- The end of the server leaves nothing else at the path. -/
theorem Passes.find_of_end (passes : Passes path before after)
    (leads : before.files.Leads path location) (lived : before.server.stage ≠ .ended)
    (ended : after.server.stage = .ended) :
    after.files.find path
      = if before.files.find path = .ok (location, .directory) then .ok (location, .directory)
        else .error .noSuchFile := by
  cases passes with
  | goesOn files stage => exact absurd (stage.mp ended) lived
  | ends files _ _ => simp only [files, leads.find_clear, leads.find_eq_ok_iff]

theorem Holds.isOver (holds : host.Holds path location) (ended : host.server.stage = .ended) :
    host.server.daemon.IsOver host.opened := by
  have accounts := holds.accounts
  unfold Server.Accounts at accounts
  rw [ended] at accounts
  cases accounts with
  | ended isOver => exact isOver

/-- No connection can be opened to a server that has ended. -/
theorem Holds.connect_of_ended (holds : host.Holds path location)
    (ended : host.server.stage = .ended) : host.connect plan = none := by
  simp [Host.connect, Server.isReachable, Daemon.isReachable, (holds.isOver ended).listening]

/-- A server that serves stops and ends. -/
theorem run_stop (serving : host.server.stage = .serving) :
    host.run plan [.stop, .finish]
      = host.withBoth ((host.server.beginStop plan).endStop plan host.files) := by
  have stopped : host.step plan .stop = { host with server := host.server.beginStop plan } := by
    unfold Host.step
    rw [serving]
  change (host.step plan .stop).step plan .finish = _
  rw [stopped]
  rfl

theorem ended_of_stop (serving : host.server.stage = .serving) :
    (host.run plan [.stop, .finish]).server.stage = .ended := by
  rw [run_stop serving]
  rfl

theorem ended_of_drop (unserved : host.server.stage = .bound) :
    (host.step plan .drop).server.stage = .ended := by
  unfold Host.step
  rw [unserved]
  rfl

end Ending

end Host

namespace Server

open Host (Step)

/-- No one else does anything to the path. -/
def OwnSteps (steps : List Step) : Prop := ∀ step ∈ steps, step.isIntrusion = false

/-- How it goes on after a server has been bound to a path, whatever happens. -/
structure Lives (plan : Daemon.Plan) (path : List Char) (server : Server) (files : Files) :
    Prop where
  /-- The socket is there until others take it away or the server ends. -/
  stays : ∀ steps, OwnSteps steps →
    let host := Host.run plan { files, server } steps
    host.server.stage ≠ .ended → host.files.find path = .ok (server.location, .socket)
  /-- A directory that others have put there stays, also when the server ends. -/
  spares : ∀ steps more, OwnSteps more →
    let host := Host.run plan { files, server } steps
    host.files.find path = .ok (server.location, .directory) →
      (host.run plan more).files.find path = .ok (server.location, .directory)
  /-- A server that is told to stop ends, and one that is dropped. -/
  ends : ∀ steps,
    let host := Host.run plan { files, server } steps
    (host.server.stage = .serving → (host.run plan [.stop, .finish]).server.stage = .ended)
      ∧ (host.server.stage = .bound → (host.step plan .drop).server.stage = .ended)
  /-- Once the server has ended, nothing is there but a directory that was there before. -/
  clears : ∀ steps more, OwnSteps more →
    let host := Host.run plan { files, server } steps
    let later := host.run plan more
    host.server.stage ≠ .ended → later.server.stage = .ended →
      later.files.find path
        = if host.files.find path = .ok (server.location, .directory) then
            .ok (server.location, .directory)
          else .error .noSuchFile
  /-- Then every connection that was opened is closed. -/
  closes : ∀ steps,
    let host := Host.run plan { files, server } steps
    host.server.stage = .ended → ∀ number ∈ host.opened,
      host.server.daemon.isOpen number = false
        ∧ ∃ seen, .closed number seen ∈ host.server.daemon.pool.log
  /-- No further connection can be opened. -/
  refuses : ∀ steps,
    let host := Host.run plan { files, server } steps
    host.server.stage = .ended → host.connect plan = none
  /-- Nothing that is done with the server touches a file any more. -/
  rests : ∀ steps more, OwnSteps more →
    let host := Host.run plan { files, server } steps
    let later := host.run plan more
    host.server.stage = .ended → later.server.stage = .ended ∧ later.files = host.files

variable {plan : Daemon.Plan} {path : List Char} {server : Server} {files : Files}

/-- A server that has just been bound. -/
theorem lives_bound {location : Location} (leads : files.Leads path location)
    (lies : files.entryAt? location = some .socket) :
    (bound plan path location).Lives plan path files := by
  have holds : Host.Holds path location { files, server := bound plan path location } :=
    ⟨rfl, rfl, iff_of_false nofun nofun, leads, accounts_bound plan path location⟩
  have always (steps : List Step) :
      (Host.run plan { files, server := bound plan path location } steps).Holds path location :=
    holds.run steps
  refine ⟨fun steps own => ?_, fun steps more own => ?_, fun steps => ?_, fun steps more own => ?_,
    fun steps => ?_, fun steps => ?_, fun steps more own => ?_⟩ <;> intro host
  · intro lives
    cases holds.passes_run own with
    | goesOn same _ =>
        have unchanged : host.files = files := same
        rw [unchanged]
        exact leads.find_eq_ok_iff.mpr lies
    | ends _ _ ended => exact absurd ended lives
  · exact ((always steps).passes_run own).find_directory (always steps).leads
  · exact ⟨Host.ended_of_stop, Host.ended_of_drop⟩
  · exact ((always steps).passes_run own).find_of_end (always steps).leads
  · intro ended number isOpened
    have isOver := (always steps).isOver ended
    exact ⟨isOver.isOpen number, isOver.exists_closed isOpened⟩
  · exact (always steps).connect_of_ended
  · intro later ended
    cases (always steps).passes_run own with
    | goesOn same stage => exact ⟨stage.mpr ended, same⟩
    | ends _ lived _ => exact absurd ended lived

/-- Whatever lies at a path and on its way, binding a server there is refused and leaves no socket
and every directory, or leaves the socket of the server, which lives from then on as it should. What
is there is no reason to refuse, unless it is a directory. A path without a character, which valid
settings do not have, gives the socket no file. -/
theorem bind_lives (plan : Daemon.Plan) (path : List Char) (files : Files) (named : path ≠ []) :
    ((∃ obstacle after, files.perform (bind plan path) = (.error obstacle, after)
        ∧ Refuses path files after)
      ∨ ∃ server after, files.perform (bind plan path) = (.ok server, after)
          ∧ after.find path = .ok (server.location, .socket) ∧ Spares path files after
          ∧ server.Lives plan path after)
      ∧ ∀ location, isAddress path = true → files.targetOf path = .ok (.named location) →
          files.entryAt? location ≠ some .directory →
          ∃ server after, files.perform (bind plan path) = (.ok server, after)
            ∧ server.location = location := by
  refine ⟨?_, fun location fits leads noDirectory => ?_⟩
  · rcases bind_cases plan files named with refused | ⟨location, after, bound, spares, leads, lies⟩
    · exact .inl refused
    · exact .inr ⟨_, after, bound, leads.find_eq_ok_iff.mpr lies, spares, lives_bound leads lies⟩
  · obtain ⟨after, bound⟩ := perform_bind_of_named plan fits leads noDirectory
    exact ⟨_, after, bound, rfl⟩

/-- A socket takes the place of the file of an earlier run. -/
theorem bind_lives_at_stale_file :
    let plan : Daemon.Plan := ⟨⟨⟨⟨4, 300, 1, Limiter.usualDecrease⟩, 1024⟩, 1⟩, 0⟩
    let path := "a/d.sock".toList
    let files := ({} : Files).putFile path []
    ∃ server after, files.perform (bind plan path) = (.ok server, after)
      ∧ after.find path = .ok (server.location, .socket) ∧ server.Lives plan path after := by
  intro plan path files
  obtain ⟨outcome, accepted⟩ := bind_lives plan path files (by decide)
  have leads : files.targetOf path = .ok (.named (files.workingDirectory ++ stepsOf path)) := by
    decide +kernel
  have stale : files.entryAt? (files.workingDirectory ++ stepsOf path) = some (.file []) := by
    decide +kernel
  obtain ⟨bound, left, accepts, _⟩ := accepted _ (by decide) leads (by simp [stale])
  rcases outcome with ⟨obstacle, after, refused, _⟩ | ⟨server, after, binds, found, _, lives⟩
  · rw [refused] at accepts
    cases accepts
  · exact ⟨server, after, binds, found, lives⟩

/-- A server replaces the file of an earlier run. When it ends, one connection is inside a line and
one is queued, and it closes both. A file that others put at its path afterwards is left alone. -/
example :
    let plan : Daemon.Plan := ⟨⟨⟨⟨4, 300, 1, Limiter.usualDecrease⟩, 1024⟩, 1⟩, 0⟩
    let path := "a/d.sock".toList
    let (bound, files) := (({} : Files).putFile path []).perform (bind plan path)
    let ends := bound.toOption.map fun server =>
      let host := Host.run plan { files, server }
        [.connect, .act 0 (.send (Text.encode "STA".toList)), .serve, .connect,
          .intrude .putDirectory, .connect, .stop, .finish, .intrude (.putFile []), .drop]
      (host.server.stage, host.opened, host.server.daemon.pool.log,
        (host.files.find path).toOption.map Prod.snd)
    ends = some (.ended, [0, 1], [.closed 0 true, .closed 1 true], some (.file [])) := by
  decide +kernel

end Server

end AdmissionControl
