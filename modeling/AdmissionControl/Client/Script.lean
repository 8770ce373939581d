import AdmissionControl.Client.Basic

/-!
# Scripted far ends

A scripted daemon answers the lines of each connection from a list of replies. It shows how a client
takes replies that no well-behaved daemon sends.
-/

namespace AdmissionControl

/-- The answer to one line: bytes, or none at all with the connection left open. -/
abbrev ScriptedReply := Option (List UInt8)

/-- The connection that a scripted daemon has accepted last. -/
inductive ScriptedConnection where
  /-- There is none, or it is closed. -/
  | closed
  /-- These replies are still to be given. -/
  | open (replies : List ScriptedReply)
  /-- The connection is open, but nothing more is read from it. -/
  | silent
deriving DecidableEq

/-- A daemon that answers from scripts, one for each connection that it accepts. -/
structure ScriptedDaemon where
  scripts : List (List ScriptedReply)
  current : ScriptedConnection := .closed
  /-- The lines read so far. -/
  received : List (List UInt8) := []

namespace ScriptedDaemon

/-- Accepts a connection if a script is left for it. -/
def connect (daemon : ScriptedDaemon) : Option (Unit × ScriptedDaemon) :=
  match daemon.scripts with
  | [] => none
  | script :: rest => some ((), { daemon with scripts := rest, current := .open script })

/-- Reads a line and gives the next reply; the connection closes after the last one. A daemon that
gives no reply reads nothing more either. -/
def send (daemon : ScriptedDaemon) (_ : Unit) (line : List UInt8) : Arrival × ScriptedDaemon :=
  match daemon.current with
  | .closed => (.refused, daemon)
  | .silent => (.received [] false, daemon)
  | .open [] => (.received [] true, { daemon with current := .closed })
  | .open (none :: _) =>
      (.received [] false,
        { daemon with current := .silent, received := daemon.received ++ [line] })
  | .open (some reply :: rest) =>
      (.received reply rest.isEmpty,
        { daemon with
          current := if rest.isEmpty then .closed else .open rest
          received := daemon.received ++ [line] })

/-- Sees the client close its connection. -/
def hangUp (daemon : ScriptedDaemon) (_ : Unit) : ScriptedDaemon :=
  { daemon with current := .closed }

/-- Connections to a scripted daemon. -/
def transport : Transport ScriptedDaemon Unit := ⟨connect, send, hangUp⟩

end ScriptedDaemon

end AdmissionControl
