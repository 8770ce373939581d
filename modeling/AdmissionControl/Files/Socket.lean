import AdmissionControl.Files.Basic

/-!
# Sockets in files

A daemon binds a socket at the end of a path. It makes the directory that the socket lies in and
replaces what an earlier run left there, but never a directory, and it takes its socket away again.
A client connects to the socket that a path leads to; an address that begins with a null character
is no path.
-/

namespace AdmissionControl

namespace Files

/-- The greatest number of bytes of a path in a socket address. -/
def greatestAddress : Nat := 107

/-- Whether a path fits into a socket address. -/
def isAddress (path : List Char) : Bool := (Text.encode path).length ≤ greatestAddress

/-- Puts a socket at the end of a path where nothing is, and tells its location. For a path without
a character the system makes up an address that is no file, and the root stands for it. -/
def bindSocket (path : List Char) : Action Location := do
  if path.isEmpty then return []
  let files ← get
  if !isAddress path then throw .addressTooLong
  match files.targetOf path with
  | .error obstacle => throw obstacle
  | .ok (.directory _) => throw .fileExists
  | .ok (.named location) =>
      if (files.entryAt? location).isSome then throw .fileExists
      set (files.put location .socket)
      return location

/-- The files without what a path leads to. A directory stays. -/
def clear (files : Files) (path : List Char) : Files := (files.perform (unlink path)).2

/-- The location of the socket that a path as an address leads to. -/
def socketAt (files : Files) (path : List Char) : Except Obstacle Location :=
  if path.head? = some '\x00' then
    if (Text.encode path).length ≤ greatestAddress + 1 then .error .nobodyListens
    else .error .abstractAddressTooLong
  else if path.contains '\x00' then .error .nullInAddress
  else if !isAddress path then .error .addressTooLong
  else
    match files.find path with
    | .ok (location, .socket) => .ok location
    | .ok _ => .error .nobodyListens
    | .error obstacle => .error obstacle

end Files

/-- The file of a socket at the end of a path. What lies there is taken away once, and then no
more. -/
structure SocketFile where
  path : List Char
  removed : Bool := false
deriving DecidableEq

namespace SocketFile

/-- Makes the end of a path ready for a socket. -/
def prepare (path : List Char) : Files.Action SocketFile := do
  Files.ensureParent path
  tryCatch (Files.unlink path) fun obstacle =>
    if obstacle = .noSuchFile then pure () else throw obstacle
  return { path }

/-- Takes away what lies at the path, unless that was done before. -/
def remove (socket : SocketFile) (files : Files) : SocketFile × Files :=
  if socket.removed then (socket, files)
  else ({ socket with removed := true }, files.clear socket.path)

end SocketFile

end AdmissionControl
