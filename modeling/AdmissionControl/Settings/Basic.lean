import AdmissionControl.Daemon.Basic

/-!
# Settings

All that an operator can set, with the usual values, and the conditions that a set of values has to
meet. Everything else of the project takes what it needs from a record of settings.
-/

namespace AdmissionControl

/-- A record of settings. -/
structure Settings where
  enabled : Bool := false
  socketPath : List Char := "tmp/sockets/load_shedder.sock".toList
  workers : UInt64 := 4
  targetMilliseconds : UInt64 := 300
  step : UInt32 := 1
  decrease : Binary64 := Limiter.usualDecrease
  drainMilliseconds : UInt64 := 1000
  lineLimit : UInt64 := 1024
  connectMilliseconds : UInt64 := 100
  retryAfterSeconds : UInt64 := 2
  warnSeconds : UInt64 := 60
  unsampledPrefixes : List (List Char) := ["/message-bus/".toList]
  authCookie : List Char := "_t".toList
deriving DecidableEq

namespace Settings

/-- The greatest number of workers. -/
def greatestWorkers : UInt64 := 65536

/-- The least limit on the length of a line. -/
def leastLineLimit : UInt64 := 16

/-- Why a record of settings is not acceptable. -/
inductive Fault where
  | noWorkers
  | tooManyWorkers (workers : UInt64)
  | noTarget
  | noSocketPath
  | noStep
  | decreaseOutOfRange (decrease : Binary64)
  | lineLimitTooShort
deriving DecidableEq

/-- The wording of a fault. -/
def Fault.message : Fault → String
  | .noWorkers => "workers must be at least 1"
  | .tooManyWorkers workers =>
      "workers must be at most " ++ String.ofList (Text.Numeral.write greatestWorkers.toNat)
        ++ ", got " ++ String.ofList (Text.Numeral.write workers.toNat)
  | .noTarget => "target_p95_ms must be greater than 0"
  | .noSocketPath => "socket_path must not be empty"
  | .noStep => "limiter.additive_step must be at least 1"
  | .decreaseOutOfRange decrease =>
      "limiter.multiplicative_decrease must be in (0, 1), got " ++ String.ofList decrease.write
  | .lineLimitTooShort => "server.max_line_bytes must be at least 16"

/-- Whether a factor lowers every limit without taking it to zero. -/
def isDecrease (factor : Binary64) : Bool :=
  Binary64.zero.lessThan factor && factor.lessThan (.ofNat 1)

/-- Looks for the first condition that the settings do not meet. -/
def validate (settings : Settings) : Except Fault Unit :=
  if settings.workers = 0 then .error .noWorkers
  else if greatestWorkers < settings.workers then .error (.tooManyWorkers settings.workers)
  else if settings.targetMilliseconds = 0 then .error .noTarget
  else if settings.socketPath.isEmpty then .error .noSocketPath
  else if settings.step = 0 then .error .noStep
  else if !isDecrease settings.decrease then .error (.decreaseOutOfRange settings.decrease)
  else if settings.lineLimit < leastLineLimit then .error .lineLimitTooShort
  else .ok ()

/-- The limiter of a daemon starts with one slot for each worker. -/
def tuning (settings : Settings) : Limiter.Tuning where
  initialLimit := .ofNat (min settings.workers.toNat (UInt32.size - 1))
  targetMilliseconds := settings.targetMilliseconds
  step := settings.step
  decrease := settings.decrease

/-- What a daemon does with request lines. -/
def service (settings : Settings) : Service := ⟨settings.tuning, settings.lineLimit.toNat⟩

/-- How a daemon is set up. -/
def daemonPlan (settings : Settings) : Daemon.Plan where
  pool := ⟨settings.service, settings.workers.toNat⟩
  drainMilliseconds := settings.drainMilliseconds.toNat

/-- Nanoseconds in a millisecond. -/
def nanosecondsPerMillisecond : Nat := 10 ^ 6

/-- Nanoseconds in a second. -/
def nanosecondsPerSecond : Nat := 10 ^ 9

/-- How long a stopping daemon waits, in nanoseconds. -/
def drainTime (settings : Settings) : Nat :=
  settings.drainMilliseconds.toNat * nanosecondsPerMillisecond

/-- How long a client waits for a connection, in nanoseconds. -/
def connectTime (settings : Settings) : Nat :=
  settings.connectMilliseconds.toNat * nanosecondsPerMillisecond

/-- The least time between two warnings of one class, in nanoseconds. -/
def warnTime (settings : Settings) : Nat := settings.warnSeconds.toNat * nanosecondsPerSecond

end Settings

end AdmissionControl
