/-!
# Obstacles

What can stand in the way of a path or of a socket address, with the wording that a run ends with.
-/

namespace AdmissionControl

/-- Why a path cannot be followed, or a socket neither bound nor connected to. -/
inductive Obstacle where
  | noSuchFile
  | fileExists
  | notDirectory
  | isDirectory
  /-- A name, or a path as a whole, is longer than any can be. -/
  | nameTooLong
  | nobodyListens
  /-- A path does not fit into a socket address. -/
  | addressTooLong
  /-- An address that is no path does not fit into a socket address. -/
  | abstractAddressTooLong
  /-- A path of a file holds a null character. -/
  | nullInPath
  /-- A path in a socket address holds a null character. -/
  | nullInAddress
deriving DecidableEq

/-- The wording of an obstacle. -/
def Obstacle.message : Obstacle → String
  | .noSuchFile => "No such file or directory (os error 2)"
  | .fileExists => "File exists (os error 17)"
  | .notDirectory => "Not a directory (os error 20)"
  | .isDirectory => "Is a directory (os error 21)"
  | .nameTooLong => "File name too long (os error 36)"
  | .nobodyListens => "Connection refused (os error 111)"
  | .addressTooLong => "path must be shorter than SUN_LEN"
  | .abstractAddressTooLong => "abstract socket name must be shorter than SUN_LEN"
  | .nullInPath => "file name contained an unexpected NUL byte"
  | .nullInAddress => "paths must not contain interior null bytes"

end AdmissionControl
