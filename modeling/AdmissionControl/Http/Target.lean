/-!
# Request targets

A target is a path with an optional query, an absolute address that holds one, an authority alone,
or an asterisk. Only the path matters to admission control; it is not decoded.
-/

namespace AdmissionControl.Http

/-- Whether a character ends the path of a target. -/
def endsPath (character : Char) : Bool := character = '?' || character = '#'

/-- Whether a character ends the authority of an address. -/
def endsAuthority (character : Char) : Bool := character = '/' || endsPath character

/-- What follows the scheme of an address, if it has one. -/
def afterScheme? : List Char → Option (List Char)
  | ':' :: '/' :: '/' :: rest => some rest
  | _ :: rest => afterScheme? rest
  | [] => none

/-- The path at the front of a text; an empty path counts as the root. -/
def pathAtFront (text : List Char) : List Char :=
  match text.takeWhile (!endsPath ·) with
  | [] => ['/']
  | path => path

/-- The path of a target. An authority alone has none. -/
def pathOf (target : List Char) : List Char :=
  match target with
  | ['*'] => target
  | '/' :: _ => pathAtFront target
  | _ =>
      match afterScheme? target with
      | some address => pathAtFront (address.dropWhile (!endsAuthority ·))
      | none => []

end AdmissionControl.Http
