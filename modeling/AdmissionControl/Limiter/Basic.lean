import AdmissionControl.Binary64.Arithmetic

/-!
# The concurrency limiter

The limit falls by a factor when a sampled completion is slower than the target and rises by a step
when a healthy one arrives while at least half of the limit is in use. Counts are 32-bit words, and
the saturation test doubles the number in flight within them.
-/

namespace AdmissionControl

namespace Limiter

/-- Nine tenths, the usual factor of a reduction. -/
def usualDecrease : Binary64 := .ofRatio false (9 * Binary64.unitsPerOne) 10

/-- What an operator fixes about a limiter. -/
structure Tuning where
  initialLimit : UInt32
  targetMilliseconds : UInt64
  step : UInt32 := 1
  decrease : Binary64 := usualDecrease
deriving DecidableEq

/-- The highest limit: the initial one, at least one. -/
def Tuning.ceiling (tuning : Tuning) : UInt32 := max tuning.initialLimit 1

/-- The lowest limit: half of the highest, at least one. -/
def Tuning.floor (tuning : Tuning) : UInt32 := max (tuning.ceiling / 2) 1

/-- The latency past which a completion is slow. -/
def Tuning.target (tuning : Tuning) : Binary64 := .ofNat tuning.targetMilliseconds.toNat

/-- The limit after a slow sample: the product with the factor rounded down, but not below the
floor. -/
def Tuning.reduced (tuning : Tuning) (limit : UInt32) : UInt32 :=
  max tuning.floor
    (.ofNat ((Binary64.ofNat limit.toNat * tuning.decrease).floorWithin (UInt32.size - 1)))

/-- The limit after a healthy sample near saturation: one step more, but not above the ceiling. -/
def Tuning.raised (tuning : Tuning) (limit : UInt32) : UInt32 :=
  let sum := limit + tuning.step
  min tuning.ceiling (if sum < limit then .ofNat (UInt32.size - 1) else sum)

end Limiter

/-- The state of a limiter. -/
structure Limiter where
  limit : UInt32
  inflight : UInt32
  degraded : Bool
deriving DecidableEq, Repr

namespace Limiter

/-- A limiter before its first operation. -/
def fresh (tuning : Tuning) : Limiter := ⟨tuning.ceiling, 0, false⟩

/-- The answer to one admission attempt, together with the state it leaves. -/
structure Decision where
  admitted : Bool
  state : Limiter
deriving DecidableEq, Repr

/-- Takes a slot while fewer than the limit are in flight; otherwise changes nothing. -/
def acquire (state : Limiter) : Decision :=
  if state.inflight < state.limit then
    ⟨true, { state with inflight := state.inflight + 1 }⟩
  else
    ⟨false, state⟩

/-- Gives a slot back. With none in flight nothing changes. -/
def release (state : Limiter) : Limiter :=
  { state with inflight := if state.inflight = 0 then 0 else state.inflight - 1 }

/-- Adjusts the limit to one latency sample. -/
def retune (tuning : Tuning) (latency : Binary64) (state : Limiter) : Limiter :=
  if tuning.target.lessThan latency then
    { state with limit := tuning.reduced state.limit, degraded := true }
  else if state.limit ≤ state.inflight * 2 then
    { state with limit := tuning.raised state.limit, degraded := false }
  else
    { state with degraded := false }

/-- Ends one operation: its slot is given back first, and a sampled latency then adjusts the
limit. -/
def complete (tuning : Tuning) (latency : Binary64) (sampled : Bool) (state : Limiter) : Limiter :=
  if sampled then retune tuning latency state.release else state.release

/-- One use of a limiter. -/
inductive Operation where
  | acquire
  | complete (latency : Binary64) (sampled : Bool)
  | read
deriving DecidableEq

/-- The state after one use. -/
def apply (tuning : Tuning) (state : Limiter) : Operation → Limiter
  | .acquire => state.acquire.state
  | .complete latency sampled => state.complete tuning latency sampled
  | .read => state

/-- The state after a sequence of uses. -/
def run (tuning : Tuning) (state : Limiter) (operations : List Operation) : Limiter :=
  operations.foldl (apply tuning) state

/-- Admission attempts in a row: how many were granted, and the last answer. -/
structure Burst where
  granted : Nat
  last : Option Decision
  state : Limiter

/-- Makes `attempts` admission attempts in a row. The first ones are granted, as many as there is
room for, so nothing is done one by one. -/
def acquireTimes (state : Limiter) (attempts : Nat) : Burst :=
  let granted := min attempts (state.limit.toNat - state.inflight.toNat)
  let after : Limiter := { state with inflight := state.inflight + .ofNat granted }
  ⟨granted, if attempts = 0 then none else some ⟨granted = attempts, after⟩, after⟩

end Limiter

end AdmissionControl
