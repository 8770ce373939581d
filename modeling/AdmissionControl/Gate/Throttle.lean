/-!
# Throttled warnings

Of each class of warnings at most one is let through in an interval. Times are kept in ticks, 64-bit
words that count nanoseconds from one on and stay at the greatest word once they reach it.
-/

namespace AdmissionControl

namespace Throttle

/-- The classes of warnings, which are throttled independently of each other. -/
inductive Class where
  | admission
  | completion
  | classification
  | handler
deriving DecidableEq

/-- The greatest tick. -/
def greatestTick : Nat := UInt64.size - 1

/-- The tick of a time in nanoseconds. -/
def tick (time : Nat) : Nat := min (time + 1) greatestTick

end Throttle

/-- When a warning of each class was last let through. -/
structure Throttle where
  last : Throttle.Class → Option Nat

namespace Throttle

/-- A throttle that has let nothing through. -/
def fresh : Throttle := ⟨fun _ => none⟩

/-- Whether a warning may pass: none of its class has, or the interval is over since. -/
def permits (throttle : Throttle) (interval time : Nat) (kind : Class) : Bool :=
  match throttle.last kind with
  | none => true
  | some before => decide (min interval greatestTick ≤ tick time - before)

/-- Records that a warning passed. -/
def record (throttle : Throttle) (time : Nat) (kind : Class) : Throttle :=
  ⟨fun other => if other = kind then some (tick time) else throttle.last other⟩

/-- The throttle after a warning has come up. -/
def after (throttle : Throttle) (interval time : Nat) (kind : Class) : Throttle :=
  if throttle.permits interval time kind then throttle.record time kind else throttle

end Throttle

end AdmissionControl
