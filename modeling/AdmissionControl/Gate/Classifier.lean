import AdmissionControl.Http.Message
import AdmissionControl.Text.Blank
import AdmissionControl.Wire.Request

/-!
# Classifying visitors

A classifier tells authenticated visitors from anonymous ones by their request. The usual one looks
for a cookie with a certain name and a value that is not empty.
-/

namespace AdmissionControl

open Wire

namespace Classifier

/-- Why a request could not be classified. -/
inductive Fault where
  | invisibleCookie
  /-- A cause that a custom classifier gives. -/
  | other (cause : String)
deriving DecidableEq

/-- The wording of a fault. -/
def Fault.message : Fault → String
  | .invisibleCookie => "cookie header is not visible ASCII"
  | .other cause => cause

end Classifier

/-- A way to classify requests. -/
abbrev Classifier := Http.Request → Except Classifier.Fault Visitor

namespace Classifier

/-- Whether a piece of a cookie header is the cookie `name` with a value that is not empty. -/
def isCookie (name piece : List Char) : Bool :=
  match Text.cut? '=' (Text.trim piece) with
  | some (key, value) => key = name && !value.isEmpty
  | none => false

/-- Whether a cookie header holds the cookie `name`. -/
def holdsCookie (name header : List Char) : Bool := (header.splitOn ';').any (isCookie name)

/-- Goes through cookie headers until one holds the cookie or cannot be read. -/
def findCookie (name : List Char) : List Http.Value → Except Fault Visitor
  | [] => .ok .anonymous
  | value :: rest =>
      match Http.readVisible? value with
      | none => .error .invisibleCookie
      | some header =>
          if holdsCookie name header then .ok .authenticated else findCookie name rest

/-- Authenticated are those with the cookie `name`. -/
def cookie (name : List Char) : Classifier := fun request => findCookie name request.cookies

/-- Authenticated are those whose path begins with `start`. -/
def path (start : List Char) : Classifier := fun request =>
  .ok (if start.isPrefixOf request.path then .authenticated else .anonymous)

/-- Nobody can be classified. -/
def failing (cause : String) : Classifier := fun _ => .error (.other cause)

end Classifier

end AdmissionControl
