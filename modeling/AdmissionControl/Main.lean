import AdmissionControl.CommandLine.Program

/-!
# Running the program

The outer layer reads arguments, variables and files, and prints. A daemon that is started here
serves one connection, which comes in on standard input and goes out on standard output; it ends
with that connection.
-/

namespace AdmissionControl.Shell

/-- The text of a file, if it can be read. -/
def readText? (name : String) : IO (Option (List Char)) := do
  try
    return Text.decode? (← IO.FS.readBinFile name).toList
  catch _ => return none

/-- The variables of the environment. -/
def readEnvironment : IO (List (List Char × List Char)) := do
  let text ← readText? "/proc/self/environ"
  return ((text.getD []).splitOn '\x00').filterMap (Text.cut? '=')

/-- The files that the name of a configuration file can mean. -/
def readFiles (path : List Char) : IO Files := do
  let mut files : Files := {}
  for name in path :: (Surroundings.extend? path).toList do
    if let some text ← readText? (String.ofList name) then
      files := files.putFile name text
  return files

/-- The surroundings of a run with some arguments. -/
def readSurroundings (arguments : List (List Char)) : IO Surroundings := do
  let environment ← readEnvironment
  match CommandLine.read (environment.lookup CommandLine.configVariable) arguments with
  | .ok { configFile := some path, .. } => return { files := ← readFiles path, environment }
  | _ => return { environment }

/-- Prints how a run ends. -/
def finish (ending : Program.Ending) : IO UInt32 := do
  IO.print (String.ofList ending.output)
  unless ending.complaint.isEmpty do
    IO.eprintln (String.ofList ending.complaint)
  return ending.code.toUInt32

/-- Serves one connection to its end. -/
partial def serve (service : Service) (turn : Turn) : IO Unit := do
  let bytes ← (← IO.getStdin).read 4096
  let after :=
    if bytes.isEmpty then { turn with session := turn.session.hearEnd }
    else turn.hear service bytes.toList
  let replies := (after.exchanges.drop turn.exchanges.length).flatMap Exchange.reply
  let output ← IO.getStdout
  output.putStr (String.ofList replies)
  output.flush
  unless after.session.isOver do
    serve service after

end AdmissionControl.Shell

open AdmissionControl

/-- Runs the program. -/
def main (arguments : List String) : IO UInt32 := do
  let arguments := arguments.map String.toList
  let surroundings ← Shell.readSurroundings arguments
  let (course, scene) := Program.run { surroundings } arguments
  match course with
  | .ended ending => Shell.finish ending
  | .listening running =>
      let service := running.settings.service
      Shell.serve service { session := .opening true false, limiter := running.daemon.limiter }
      Shell.finish (running.stop scene).1
