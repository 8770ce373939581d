import AdmissionControl.CommandLine.Arguments
import AdmissionControl.CommandLine.Help
import AdmissionControl.CommandLine.Surroundings
import AdmissionControl.Daemon.Server

/-!
# The program

A run of the program reads its command line, loads the settings, and then is a daemon or asks one
for its state. It ends with an exit code: 0 if it did what was asked, 1 if that failed, and 2 if the
command line cannot be understood. The loaded settings have to be acceptable before the command line
replaces any of them, and once more after that.
-/

namespace AdmissionControl

open CommandLine

namespace Program

/-- Why a run fails. -/
inductive Failure where
  | settings (fault : Settings.LoadFault)
  | binding (path : List Char) (obstacle : Obstacle)
  | connecting (obstacle : Obstacle)
  /-- The daemon ended the connection. -/
  | disconnected
  | reply (fault : Wire.Fault)
deriving DecidableEq

/-- The wording of a failure. -/
def Failure.message : Failure → String
  | .settings fault => "Configuration error: " ++ fault.message
  | .binding path obstacle =>
      "Failed to bind " ++ String.ofList path ++ ": " ++ obstacle.message
  | .connecting obstacle => "I/O error: " ++ obstacle.message
  | .disconnected => "I/O error: daemon closed the connection"
  | .reply fault => "Protocol error: " ++ fault.message

/-- How a run ends. -/
inductive Ending where
  /-- It did what was asked, and printed a text. -/
  | done (output : List Char)
  | failed (failure : Failure)
  | misused (cause : Misuse)
deriving DecidableEq

namespace Ending

/-- The exit code. -/
def code : Ending → Nat
  | .done _ => 0
  | .failed _ => 1
  | .misused _ => 2

/-- What is printed as output. -/
def output : Ending → List Char
  | .done output => output
  | .failed _ | .misused _ => []

/-- What is printed as an error. -/
def complaint : Ending → List Char
  | .done _ => []
  | .failed failure => ("Error: " ++ failure.message).toList
  | .misused cause => ("error: " ++ cause.message).toList

end Ending

/-- What a run goes on to do. -/
inductive Task where
  | serve (settings : Settings)
  | stats (settings : Settings)
deriving DecidableEq

/-- The settings with those of a command line in their place. -/
def override (settings : Settings) (socketPath : Option (List Char))
    (workers targetMilliseconds : Option UInt64) : Settings :=
  { settings with
    socketPath := socketPath.getD settings.socketPath
    workers := workers.getD settings.workers
    targetMilliseconds := targetMilliseconds.getD settings.targetMilliseconds }

/-- The task that a command line sets. -/
def taskOf (surroundings : Surroundings) (invocation : Invocation) :
    Except Settings.LoadFault Task := do
  let loaded ← surroundings.settings invocation.configFile
  match invocation.command with
  | .serve socketPath workers targetMilliseconds => do
      let settings := override loaded socketPath workers targetMilliseconds
      settings.validate.mapError .unacceptable
      pure (.serve settings)
  | .stats => pure (.stats loaded)

/-- Reads the command line and loads the settings. -/
def prepare (surroundings : Surroundings) (arguments : List (List Char)) : Except Ending Task :=
  let usual := surroundings.environment.lookup configVariable
  match CommandLine.read usual arguments with
  | .error (.help page) =>
      .error (.done (page.text usual (isStyled surroundings.environment)))
  | .error .version => .error (.done versionText)
  | .error (.misuse cause) => .error (.misused cause)
  | .ok invocation =>
      (taskOf surroundings invocation).mapError fun fault => .failed (.settings fault)

/-- A server that a run has started. -/
structure Running extends Server where
  settings : Settings

/-- What a run meets: its surroundings, and a daemon that an earlier run may have started. -/
structure Scene where
  surroundings : Surroundings
  running : Option Running := none

namespace Scene

/-- The scene with other files. -/
def withFiles (scene : Scene) (files : Files) : Scene :=
  { scene with surroundings := { scene.surroundings with files } }

end Scene

/-- Starts a server at the path that its settings name. -/
def start (scene : Scene) (settings : Settings) : Except Ending Running × Scene :=
  let plan := settings.daemonPlan
  match scene.surroundings.files.perform (Server.bind plan settings.socketPath) with
  | (.ok server, files) =>
      (.ok { server.serve plan with settings }, scene.withFiles files)
  | (.error obstacle, files) =>
      (.error (.failed (.binding settings.socketPath obstacle)), scene.withFiles files)

/-- How a run ends that has asked a daemon for its state. -/
def endingOfStats : Client.Outcome Limiter → Ending
  | .returned state => .done (Wire.Reply.ofState state)
  | .failed .transport | .unanswered => .failed .disconnected
  | .failed (.unacceptable fault) => .failed (.reply fault)

/-- Asks a daemon for its state, and closes the connection. -/
def Running.stats (running : Running) : Ending × Running :=
  let transport := Daemon.transport running.settings.daemonPlan
  let client : Client Nat := {}
  let after := client.stats transport running.daemon
  let daemon := after.client.disconnect transport after.world
  (endingOfStats after.outcome, { running with daemon })

/-- Asks the daemon at the place that the settings name for its state. -/
def stats (scene : Scene) (settings : Settings) : Ending × Scene :=
  let files := scene.surroundings.files
  match files.socketAt settings.socketPath with
  | .error obstacle => (.failed (.connecting obstacle), scene)
  | .ok _ =>
      match scene.running.filter (·.isReachable files settings.socketPath) with
      | none => (.failed (.connecting .nobodyListens), scene)
      | some running =>
          let (ending, running) := running.stats
          (ending, { scene with running })

/-- How far a run gets by itself. -/
inductive Course where
  | ended (ending : Ending)
  /-- Its daemon listens until it is stopped. -/
  | listening (running : Running)

/-- A run of the program, and the scene after it. -/
def run (scene : Scene) (arguments : List (List Char)) : Course × Scene :=
  match prepare scene.surroundings arguments with
  | .error ending => (.ended ending, scene)
  | .ok (.stats settings) =>
      let (ending, after) := stats scene settings
      (.ended ending, after)
  | .ok (.serve settings) =>
      match start scene settings with
      | (.error ending, after) => (.ended ending, after)
      | (.ok started, after) => (.listening started, after)

/-- What comes back on a connection of its own that is half closed once some bytes are sent. -/
def Running.converse (running : Running) (sent : List UInt8) : Option (List Char × Running) := do
  let plan := running.settings.daemonPlan
  let (number, opened) ← running.daemon.connect plan
  let daemon := (opened.act plan number (.send sent)).act plan number .finish
  let sight := Pool.sight (daemon.pool.eventsSince running.daemon.pool) number
  pure (sight.received, { running with daemon })

/-- Stops the server of a run, which ends well then. -/
def Running.stop (scene : Scene) (running : Running) : Ending × Scene :=
  let plan := running.settings.daemonPlan
  let (server, files) := (running.toServer.beginStop plan).endStop plan scene.surroundings.files
  (.done [],
    { scene.withFiles files with running := some { server with settings := running.settings } })

end Program

end AdmissionControl
