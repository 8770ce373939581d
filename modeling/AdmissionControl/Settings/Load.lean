import AdmissionControl.Settings.Library

/-!
# Loading settings

Settings come from a configuration file and from the environment, whose variables are laid over the
file. A setting that neither of them gives keeps its usual value, whatever else is given beside it,
and unknown keys are passed over. The first value of a wrong kind is complained of.
-/

namespace AdmissionControl

namespace Settings

/-- The value that a group gives to a setting, and the step that leads there. -/
def given? (group : Tree) (position : Nat) (name : String) : Option (Tree.Step × Tree) :=
  match group with
  | .list items _ => items[position]?.map fun item => (.item position, item)
  | _ =>
      ((Tree.asTable (some group)).1.lookup name.toList).map fun value =>
        (.key name.toList, value)

/-- Reads a setting of a group, or takes its usual value. -/
def readEntry {α : Type} (group : Tree) (position : Nat) (name : String)
    (convert : Tree → Except Mismatch α) (usual : α) : Except Mismatch α :=
  match given? group position name with
  | none => .ok usual
  | some (step, tree) => (convert tree).mapError (Mismatch.below step)

/-- Reads a group of settings by its name: a table, or a list of values in order. One that is
missing is empty. `kind` is what a complaint calls the group. -/
def readGroup {α : Type} (tree : Tree) (name kind : String)
    (read : Tree → Except Mismatch α) : Except Mismatch α :=
  match (Tree.asTable (some tree)).1.lookup name.toList with
  | none => read (.table [] none)
  | some (.scalar value _) => .error (.noGroup (.scalar value) kind)
  | some group => (read group).mapError (Mismatch.below (.key name.toList))

namespace Library

variable (library : Library)

/-- The settings of the limiter. -/
def readLimiter (usual : Settings) (group : Tree) : Except Mismatch Settings := do
  let step ← readEntry group 0 "additive_step" library.toWord32 usual.step
  let decrease ← readEntry group 1 "multiplicative_decrease" library.toReal usual.decrease
  pure { usual with step, decrease }

/-- The settings of the daemon's end of connections. -/
def readServer (usual : Settings) (group : Tree) : Except Mismatch Settings := do
  let drainMilliseconds ←
    readEntry group 0 "drain_timeout_ms" library.toWord64 usual.drainMilliseconds
  let lineLimit ← readEntry group 1 "max_line_bytes" library.toWord64 usual.lineLimit
  pure { usual with drainMilliseconds, lineLimit }

/-- The settings of a client. -/
def readClient (usual : Settings) (group : Tree) : Except Mismatch Settings := do
  let connectMilliseconds ←
    readEntry group 0 "connect_timeout_ms" library.toWord64 usual.connectMilliseconds
  pure { usual with connectMilliseconds }

/-- The settings of the gate. -/
def readGate (usual : Settings) (group : Tree) : Except Mismatch Settings := do
  let retryAfterSeconds ←
    readEntry group 0 "retry_after_secs" library.toWord64 usual.retryAfterSeconds
  let warnSeconds ← readEntry group 1 "warn_interval_secs" library.toWord64 usual.warnSeconds
  let unsampledPrefixes ←
    readEntry group 2 "unsampled_path_prefixes" library.toTexts usual.unsampledPrefixes
  let authCookie ← readEntry group 3 "auth_cookie" library.toText usual.authCookie
  pure { usual with retryAfterSeconds, warnSeconds, unsampledPrefixes, authCookie }

/-- The settings that stand in no group. -/
def readGeneral (usual : Settings) (tree : Tree) : Except Mismatch Settings := do
  let enabled ← readEntry tree 0 "enabled" library.toFlag usual.enabled
  let socketPath ← readEntry tree 1 "socket_path" library.toText usual.socketPath
  let workers ← readEntry tree 2 "workers" library.toWord64 usual.workers
  let targetMilliseconds ←
    readEntry tree 3 "target_p95_ms" library.toWord64 usual.targetMilliseconds
  pure { usual with enabled, socketPath, workers, targetMilliseconds }

/-- The settings in a tree; one that it does not hold keeps its usual value. -/
def ofTree (usual : Settings) (tree : Tree) : Except Mismatch Settings := do
  let settings ← library.readGeneral usual tree
  let settings ← readGroup tree "limiter" "LimiterConfig" (library.readLimiter settings)
  let settings ← readGroup tree "server" "ServerConfig" (library.readServer settings)
  let settings ← readGroup tree "client" "ClientConfig" (library.readClient settings)
  readGroup tree "middleware" "MiddlewareConfig" (library.readGate settings)

/-- What a configuration file gives, if there is one. -/
def sourcesOf (file : Option File) : Except LoadFault (List Source) :=
  match file with
  | none => .ok []
  | some file => (library.readFile file).map fun source => [source]

/-- The settings that a file and variables of the environment give, without a look at whether they
are acceptable. The variables come later. -/
def combine (usual : Settings) (file : Option File) (environment : List (List Char × List Char)) :
    Except LoadFault Settings := do
  let sources ← library.sourcesOf file
  let tree := library.build (sources ++ [library.readVariables environment])
  (library.ofTree usual tree).mapError .mismatched

/-- Loads settings and validates them. -/
def load (usual : Settings) (file : Option File) (environment : List (List Char × List Char)) :
    Except LoadFault Settings := do
  let settings ← library.combine usual file environment
  settings.validate.mapError .unacceptable
  pure settings

end Library

end Settings

end AdmissionControl
