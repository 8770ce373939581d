import AdmissionControl.Files.Obstacle

/-!
# Socket sites

A site is the place of a socket file: the directory it lies in, what lies under its name, and
whether the name fits into a socket address. It is what files hold at the end of a path, as far as a
daemon tells it apart. A daemon replaces what an earlier run left there, but never a directory, and
takes its socket away again at its end.
-/

namespace AdmissionControl

namespace Site

/-- What the directory of a site is like. -/
inductive Parent where
  | present
  /-- It does not exist yet and can be made. -/
  | missing
  /-- Something that is no directory stands in its place. -/
  | blocked
deriving DecidableEq

/-- What lies under the name of a site. -/
inductive Entry where
  | nothing
  | file
  | directory
  /-- The socket of the daemon that was bound last. -/
  | socket
deriving DecidableEq

end Site

/-- The place of a socket file. -/
structure Site where
  parent : Site.Parent := .present
  entry : Site.Entry := .nothing
  /-- Whether the path is short enough for a socket address. -/
  addressable : Bool := true
deriving DecidableEq

namespace Site

/-- Removes a file or a socket. A directory stays. -/
def remove (site : Site) : Site :=
  if site.entry = .directory then site else { site with entry := .nothing }

/-- Puts a directory under the name. -/
def putDirectory (site : Site) : Site := { site with entry := .directory }

/-- Makes the directory of the site, if that is possible. -/
def prepareParent? (site : Site) : Option Site :=
  if site.parent = .blocked then none else some { site with parent := .present }

/-- An attempt to bind a socket: what stood in its way, and the site after it. -/
structure Binding where
  obstacle : Option Obstacle
  site : Site
deriving DecidableEq

/-- Binds a socket. What is found there is removed before the address is tried. -/
def bind (site : Site) : Binding :=
  match site.prepareParent? with
  | none => ⟨some .fileExists, site⟩
  | some prepared =>
      if prepared.entry = .directory then ⟨some .isDirectory, prepared⟩
      else if prepared.addressable then ⟨none, { prepared with entry := .socket }⟩
      else ⟨some .addressTooLong, prepared.remove⟩

/-- Binding succeeds exactly on a site whose directory is there or can be made, whose name no
directory has, and whose path fits into an address. -/
theorem obstacle_bind_eq_none_iff (site : Site) :
    site.bind.obstacle = none ↔
      site.parent ≠ .blocked ∧ site.entry ≠ .directory ∧ site.addressable = true := by
  unfold bind prepareParent?
  grind

end Site

end AdmissionControl
