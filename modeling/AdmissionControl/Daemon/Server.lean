import AdmissionControl.Daemon.Clientele
import AdmissionControl.Files.Socket

/-!
# A server among files

A server is a daemon with its socket file. Connections that are opened before it serves wait for it.
Told to stop, it closes what waits, and ends when the lines that have begun are over or its time for
them is; if it never served, it can be dropped instead. Whichever way it ends, it takes away what
lies at its path, and does so once. Meanwhile clients call it, and others change what lies at its
path.
-/

namespace AdmissionControl

namespace Daemon

/-- A connection comes to a daemon that does not serve yet. -/
def knock (daemon : Daemon) : Option (Nat × Daemon) :=
  if daemon.isReachable then
    let number := daemon.nextNumber
    some (number, { daemon with waiting := daemon.waiting ++ [(number, {})] })
  else
    none

/-- A peer acts on a connection to a daemon that does not serve yet. -/
def leaveWord (daemon : Daemon) (number : Nat) (action : PeerAction) : Daemon :=
  { daemon with
    waiting := daemon.waiting.map fun entry =>
      if entry.1 = number then (number, action.onInbox entry.2) else entry }

/-- Begins to stop: connections that wait are closed, lines that have begun are waited for. -/
def beginStop (plan : Plan) (daemon : Daemon) : Daemon :=
  { daemon with
    listening := false
    pool := (daemon.pool.turnAway daemon.waiting).beginShutdown plan.pool
    waiting := [] }

/-- Ends stopping. Lines that are still waited for are given up. -/
def endStop (plan : Plan) (daemon : Daemon) : Daemon :=
  { daemon with site := daemon.site.remove, pool := daemon.pool.endShutdown plan.pool }

/-- Nothing else is done by stopping at one go. -/
theorem endStop_beginStop (plan : Plan) (daemon : Daemon) :
    (daemon.beginStop plan).endStop plan = (daemon.stop plan).daemon := rfl

end Daemon

/-- How far a server has come. -/
inductive Server.Stage where
  | bound
  | serving
  /-- It accepts no connection any more. -/
  | stopping
  | ended
deriving DecidableEq

/-- A daemon with its socket file. -/
structure Server where
  socket : SocketFile
  /-- Where the socket was bound. -/
  location : Location
  daemon : Daemon
  stage : Server.Stage := .bound
deriving DecidableEq

namespace Server

/-- Binds a server to a path. If that fails, what it left at the path is taken away. -/
def bind (plan : Daemon.Plan) (path : List Char) : Files.Action Server := do
  let socket ← SocketFile.prepare path
  let location ←
    tryCatch (Files.bindSocket path) fun obstacle => do
      modify fun files => (socket.remove files).2
      throw obstacle
  return { socket, location, daemon := .fresh plan { entry := .socket } }

/-- Whether a connection to a path comes to the server. -/
def isReachable (server : Server) (files : Files) (path : List Char) : Bool :=
  server.daemon.isReachable && (files.socketAt path).toOption == some server.location

/-- A connection comes to the server. -/
def connect (plan : Daemon.Plan) (server : Server) : Option (Nat × Server) :=
  let opened? :=
    match server.stage with
    | .bound => server.daemon.knock
    | .serving | .stopping | .ended => server.daemon.connect plan
  opened?.map fun (number, daemon) => (number, { server with daemon })

/-- A peer acts on its connection. -/
def act (plan : Daemon.Plan) (server : Server) (number : Nat) (action : PeerAction) : Server :=
  let daemon :=
    match server.stage with
    | .bound => server.daemon.leaveWord number action
    | .serving | .stopping | .ended => server.daemon.act plan number action
  { server with daemon }

/-- Sends bytes on a connection and takes what comes back. Nothing does before the server serves. -/
def exchange (plan : Daemon.Plan) (server : Server) (number : Nat) (bytes : List UInt8) :
    Arrival × Server :=
  match server.stage with
  | .bound =>
      if server.daemon.isOpen number then
        (.received [] false, server.act plan number (.send bytes))
      else
        (.refused, server)
  | .serving | .stopping | .ended =>
      let (arrival, daemon) := server.daemon.exchange plan number bytes
      (arrival, { server with daemon })

/-- Begins to serve the connections that wait. -/
def serve (plan : Daemon.Plan) (server : Server) : Server :=
  { server with daemon := server.daemon.proceed plan, stage := .serving }

/-- Begins to stop. -/
def beginStop (plan : Daemon.Plan) (server : Server) : Server :=
  { server with daemon := server.daemon.beginStop plan, stage := .stopping }

/-- Takes away what lies at the path. -/
def removeSocket (server : Server) (files : Files) : Server × Files :=
  let (socket, files) := server.socket.remove files
  ({ server with socket }, files)

/-- Ends stopping. -/
def endStop (plan : Daemon.Plan) (server : Server) (files : Files) : Server × Files :=
  { server with daemon := server.daemon.endStop plan, stage := .ended }.removeSocket files

/-- Gives up a server that never served. -/
def drop (server : Server) (files : Files) : Server × Files :=
  { server with daemon := server.daemon.discard, stage := .ended }.removeSocket files

end Server

/-- What others do to what lies at the path of a server. -/
inductive Intrusion where
  | takeAway
  | putDirectory
  | putFile (text : List Char)
deriving DecidableEq

/-- A server among files, with the clients that call it. -/
structure Host where
  files : Files
  server : Server
  /-- The connections that were opened, in their order. -/
  opened : List Nat := []
  clients : Nat → Client Nat := fun _ => {}

namespace Host

/-- What happens next. -/
inductive Step where
  | connect
  | act (number : Nat) (action : PeerAction)
  /-- A client makes a call. -/
  | call (caller : Nat) (errand : Client.Errand)
  /-- The process that the server runs in uses the limiter. -/
  | operate (operation : Limiter.Operation)
  | intrude (intrusion : Intrusion)
  | serve
  | stop
  /-- The lines that a stopping server waits for are over, or its time for them is. -/
  | finish
  | drop

/-- The server and its files after what has been done to both. -/
def withBoth (host : Host) (both : Server × Files) : Host :=
  { host with server := both.1, files := both.2 }

/-- Opens a connection, if the path leads to the socket and someone listens there. -/
def connect (plan : Daemon.Plan) (host : Host) : Option (Nat × Host) :=
  if host.server.isReachable host.files host.server.socket.path then
    (host.server.connect plan).map fun (number, server) =>
      (number, { host with server, opened := host.opened ++ [number] })
  else
    none

/-- A peer acts on its connection. -/
def act (plan : Daemon.Plan) (host : Host) (number : Nat) (action : PeerAction) : Host :=
  { host with server := host.server.act plan number action }

/-- Connections to the server, as a client uses them. -/
def transport (plan : Daemon.Plan) : Transport Host Nat where
  connect := connect plan
  send host number bytes :=
    let (arrival, server) := host.server.exchange plan number bytes
    (arrival, { host with server })
  hangUp host number := host.act plan number .leave

/-- A client makes a call. -/
def call (plan : Daemon.Plan) (host : Host) (caller : Nat) (errand : Client.Errand) : Host :=
  let after := errand.carryOut (transport plan) (host.clients caller) host
  { after.world with
    clients := fun other => if other = caller then after.client else host.clients other }

/-- Others change what lies at the path. -/
def intrude (host : Host) (intrusion : Intrusion) : Host :=
  let files :=
    match intrusion with
    | .takeAway => host.files.clear host.server.socket.path
    | .putDirectory => host.files.put host.server.location .directory
    | .putFile text => host.files.put host.server.location (.file text)
  { host with files }

/-- Lets something happen. A server serves once, only one that serves stops, and only one that does
not can be dropped. One that has ended is left with its socket file. -/
def step (plan : Daemon.Plan) (host : Host) : Step → Host
  | .connect => ((host.connect plan).map Prod.snd).getD host
  | .act number action => host.act plan number action
  | .call caller errand => host.call plan caller errand
  | .operate operation =>
      { host with
        server := { host.server with daemon := host.server.daemon.operate plan operation } }
  | .intrude intrusion => host.intrude intrusion
  | .serve =>
      match host.server.stage with
      | .bound => { host with server := host.server.serve plan }
      | .serving | .stopping | .ended => host
  | .stop =>
      match host.server.stage with
      | .serving => { host with server := host.server.beginStop plan }
      | .ended => host.withBoth (host.server.removeSocket host.files)
      | .bound | .stopping => host
  | .finish =>
      match host.server.stage with
      | .stopping => host.withBoth (host.server.endStop plan host.files)
      | .bound | .serving | .ended => host
  | .drop =>
      match host.server.stage with
      | .bound => host.withBoth (host.server.drop host.files)
      | .ended => host.withBoth (host.server.removeSocket host.files)
      | .serving | .stopping => host

/-- Lets things happen one after another. -/
def run (plan : Daemon.Plan) (host : Host) (steps : List Step) : Host := steps.foldl (step plan) host

end Host

end AdmissionControl
