import AdmissionControl.Gate.Throttle
import Mathlib.Data.List.Induction

/-!
# The interval between warnings

A throttle keeps the tick at which it last let a warning of a class through, and ticks stop counting
in the end. What it decides is compared with the real times of the warnings: those it lets through
are never closer than the interval, and while the clock still counts it lets a warning through
whenever the interval is over. Warnings of other classes have no part in that, nor have those that it
suppressed.
-/

namespace AdmissionControl

namespace Throttle

/-- What can happen at a throttle: time passes, in nanoseconds, or a warning comes up. -/
inductive Action where
  | advance (nanoseconds : Nat)
  | raise (kind : Class)
deriving DecidableEq

/-- A warning that came up, its time since the beginning, and whether it was let through. -/
structure Call where
  kind : Class
  time : Nat
  emitted : Bool
deriving DecidableEq

/-- A throttle, its time, and the warnings that have come up. -/
structure History where
  throttle : Throttle := .fresh
  time : Nat := 0
  calls : List Call := []

namespace History

/-- The warning that comes up now. -/
def call (interval : Nat) (history : History) (kind : Class) : Call :=
  ⟨kind, history.time, history.throttle.permits interval history.time kind⟩

/-- The history after one step. -/
def act (interval : Nat) (history : History) : Action → History
  | .advance nanoseconds => { history with time := history.time + nanoseconds }
  | .raise kind =>
      { history with
        throttle := history.throttle.after interval history.time kind
        calls := history.calls ++ [history.call interval kind] }

/-- The history after a sequence of steps. -/
def run (interval : Nat) (history : History) (actions : List Action) : History :=
  actions.foldl (act interval) history

end History

/-- When a warning of a class was last let through. -/
def lastEmission? (kind : Class) (calls : List Call) : Option Nat :=
  ((calls.filter fun call => call.kind = kind && call.emitted).getLast?).map Call.time

theorem lastEmission?_concat (kind : Class) (calls : List Call) (call : Call) :
    lastEmission? kind (calls ++ [call])
      = if call.kind = kind ∧ call.emitted = true then some call.time
        else lastEmission? kind calls := by
  unfold lastEmission?
  split
  · next counts => simp [counts]
  · next other =>
    have left : (decide (call.kind = kind) && call.emitted) = false := by simpa using other
    simp [List.filter_append, left]

section Ticks

variable {interval time before : Nat} {throttle : Throttle} {kind : Class}

theorem permits_iff :
    throttle.permits interval time kind = true
      ↔ ∀ last ∈ throttle.last kind, min interval greatestTick ≤ tick time - last := by
  unfold permits
  cases throttle.last kind <;> simp

theorem greatestTick_pos : 0 < greatestTick := by decide

/-- Ticks are never further apart than their times. Once they stop, the interval is never over. -/
theorem add_le_of_le_tick_sub (past : before ≤ time)
    (passed : min interval greatestTick ≤ tick time - tick before) : before + interval ≤ time := by
  have positive := greatestTick_pos
  unfold tick at passed
  omega

/-- Before they stop, ticks are as far apart as their times. -/
theorem le_tick_sub_iff (past : before ≤ time) (counts : time < greatestTick) :
    min interval greatestTick ≤ tick time - tick before ↔ before + interval ≤ time := by
  unfold tick
  omega

theorem last_after (throttle : Throttle) (interval time : Nat) (raised kind : Class) :
    (throttle.after interval time raised).last kind
      = if raised = kind ∧ throttle.permits interval time raised = true then some (tick time)
        else throttle.last kind := by
  unfold after
  cases permitted : throttle.permits interval time raised with
  | false => simp
  | true =>
      by_cases same : kind = raised
      · simp [record, same]
      · simp [record, same, Ne.symm same]

end Ticks

/-- What a throttle knows of the warnings that came up: of each class the tick of the last one that
it let through, which is the latest of them. -/
structure History.Recorded (history : History) : Prop where
  last : ∀ kind, history.throttle.last kind = (lastEmission? kind history.calls).map tick
  past : ∀ call ∈ history.calls, call.time ≤ history.time
  latest : ∀ call ∈ history.calls, call.emitted = true →
    ∃ last, lastEmission? call.kind history.calls = some last ∧ call.time ≤ last

namespace History

variable {interval : Nat} {history : History}

theorem recorded_fresh : ({} : History).Recorded where
  last _ := rfl
  past _ := nofun
  latest _ := nofun

theorem Recorded.act (recorded : history.Recorded) (action : Action) :
    (history.act interval action).Recorded := by
  cases action with
  | advance nanoseconds =>
      exact ⟨recorded.last,
        fun call member => Nat.le_add_right_of_le (recorded.past call member), recorded.latest⟩
  | raise kind =>
      refine ⟨fun other => ?_, fun call member => ?_, fun call member emitted => ?_⟩
      · simp only [History.act, last_after, lastEmission?_concat, History.call, recorded.last]
        split <;> rfl
      · rcases List.mem_append.mp member with before | now
        · exact recorded.past call before
        · rw [List.mem_singleton.mp now]
          exact Nat.le_refl _
      · simp only [History.act, lastEmission?_concat]
        rcases List.mem_append.mp member with before | now
        · obtain ⟨last, isLast, upTo⟩ := recorded.latest call before emitted
          split
          · exact ⟨_, rfl, recorded.past call before⟩
          · exact ⟨last, isLast, upTo⟩
        · obtain rfl := List.mem_singleton.mp now
          rw [if_pos ⟨rfl, emitted⟩]
          exact ⟨_, rfl, Nat.le_refl _⟩

/-- Of a whole run it knows the same. -/
theorem Recorded.run (recorded : history.Recorded) (actions : List Action) :
    (history.run interval actions).Recorded := by
  induction actions generalizing history with
  | nil => exact recorded
  | cons action rest inductionHypothesis => exact inductionHypothesis (recorded.act action)

theorem run_concat (history : History) (actions : List Action) (action : Action) :
    history.run interval (actions ++ [action])
      = (history.run interval actions).act interval action :=
  List.foldl_append

/-- A warning that came up in a run came up at some moment of it, after those before it. -/
theorem exists_moment {actions : List Action} {earlier later : List Call} {call : Call}
    (split : (({} : History).run interval actions).calls = earlier ++ call :: later) :
    ∃ before : List Action, (({} : History).run interval before).calls = earlier
      ∧ (({} : History).run interval before).call interval call.kind = call := by
  induction actions using List.reverseRecOn generalizing later with
  | nil => simp [run] at split
  | append_singleton actions action inductionHypothesis =>
      rw [run_concat] at split
      cases action with
      | advance => exact inductionHypothesis split
      | raise kind =>
          rcases List.eq_nil_or_concat later with rfl | ⟨others, last, rfl⟩
          · obtain ⟨same, isLast⟩ := List.append_inj' split rfl
            refine ⟨actions, same, ?_⟩
            rw [← List.singleton_inj.mp isLast]
            rfl
          · have regrouped : earlier ++ call :: others.concat last
                = (earlier ++ call :: others) ++ [last] := by simp
            rw [regrouped] at split
            exact inductionHypothesis (List.append_inj' split rfl).1

theorem Recorded.last_le (recorded : history.Recorded) {kind : Class} {last : Nat}
    (isLast : lastEmission? kind history.calls = some last) : last ≤ history.time := by
  obtain ⟨call, found, rfl⟩ := Option.map_eq_some_iff.mp isLast
  exact recorded.past call (List.mem_filter.mp (List.mem_of_getLast? found)).1

/-- A warning that is let through comes the interval after the last one of its class, or later. -/
theorem Recorded.add_le (recorded : history.Recorded) {kind : Class} {last : Nat}
    (isLast : lastEmission? kind history.calls = some last)
    (emitted : (history.call interval kind).emitted = true) : last + interval ≤ history.time := by
  have known : history.throttle.last kind = some (tick last) := by
    rw [recorded.last, isLast, Option.map_some]
  exact add_le_of_le_tick_sub (recorded.last_le isLast) (permits_iff.mp emitted _ known)

/-- While the clock counts, a warning is let through exactly if none of its class has been, or the
interval is over since the last one. -/
theorem Recorded.emitted_iff (recorded : history.Recorded) (kind : Class)
    (counts : history.time < greatestTick) :
    (history.call interval kind).emitted = true
      ↔ ∀ last, lastEmission? kind history.calls = some last → last + interval ≤ history.time := by
  constructor
  · intro emitted last isLast
    exact recorded.add_le isLast emitted
  · intro passed
    refine permits_iff.mpr fun recordedTick known => ?_
    rw [recorded.last] at known
    obtain ⟨last, isLast, rfl⟩ := Option.map_eq_some_iff.mp known
    exact (le_tick_sub_iff (recorded.last_le isLast) counts).mpr (passed last isLast)

end History

/-- Whether a step matters to the warnings of a class: time passes, or one of them comes up. -/
def Action.concerns (kind : Class) : Action → Bool
  | .advance _ => true
  | .raise other => other = kind

/-- What two histories have in common when they differ in warnings of other classes only. -/
structure History.Agrees (kind : Class) (whole own : History) : Prop where
  time : own.time = whole.time
  last : own.throttle.last kind = whole.throttle.last kind
  calls : own.calls = whole.calls.filter (·.kind = kind)

theorem History.Agrees.act {kind : Class} {interval : Nat} {whole own : History}
    (agrees : Agrees kind whole own) (action : Action) :
    Agrees kind (whole.act interval action)
      (if action.concerns kind then own.act interval action else own) := by
  obtain ⟨time, last, calls⟩ := agrees
  cases action with
  | advance nanoseconds => exact ⟨congrArg (· + nanoseconds) time, last, calls⟩
  | raise raised =>
      by_cases same : raised = kind
      · subst same
        have permitted : own.throttle.permits interval whole.time raised
            = whole.throttle.permits interval whole.time raised := by
          rw [permits, last, ← permits]
        simp only [Action.concerns, decide_true, if_true]
        refine ⟨time, ?_, ?_⟩
        · simp only [History.act, last_after, time, permitted, last]
        · simp [History.act, History.call, calls, time, permitted]
      · simp only [Action.concerns, same, decide_false, Bool.false_eq_true, if_false]
        refine ⟨time, ?_, ?_⟩
        · simp [History.act, last_after, same, last]
        · simp [History.act, calls, History.call, same]

/-- The warnings of a class come up in a run as if they were the only ones. -/
theorem History.Agrees.run {kind : Class} {interval : Nat} {whole own : History}
    (agrees : Agrees kind whole own) (actions : List Action) :
    Agrees kind (whole.run interval actions)
      (own.run interval (actions.filter (·.concerns kind))) := by
  induction actions generalizing whole own with
  | nil => exact agrees
  | cons action rest inductionHypothesis =>
      have step : Agrees kind (whole.act interval action)
          (if action.concerns kind then own.act interval action else own) := agrees.act action
      have next := inductionHypothesis step
      cases concerned : action.concerns kind <;>
        simpa [History.run, concerned] using next

/-- A throttle keeps its interval, whatever that is, and however warnings of the four classes come
up. Of two warnings of one class that it lets through, the second comes at least the interval after
the first, also when the clock has stopped counting. While it counts, a warning is let through
exactly if none of its class has been, or at least the interval has passed since the last one that
was; one that is suppressed does not count. What becomes of the warnings of a class is the same
without those of other classes. -/
theorem run_keeps_interval (interval : Nat) (actions : List Action) :
    let calls (actions : List Action) := (({} : History).run interval actions).calls
    (∀ earlier first between second later,
        calls actions = earlier ++ first :: between ++ second :: later →
        first.kind = second.kind → first.emitted = true → second.emitted = true →
        first.time + interval ≤ second.time)
      ∧ (∀ earlier call later, calls actions = earlier ++ call :: later →
          call.time < 2 ^ 64 - 1 →
          (call.emitted = true
            ↔ ∀ last, lastEmission? call.kind earlier = some last → last + interval ≤ call.time))
      ∧ ∀ kind,
          (calls actions).filter (·.kind = kind) = calls (actions.filter (·.concerns kind)) := by
  intro calls
  refine ⟨fun earlier first between second later split sameKind firstEmitted secondEmitted => ?_,
    fun earlier call later split counts => ?_, fun kind => ?_⟩
  · obtain ⟨before, callsBefore, isCall⟩ := History.exists_moment split
    have recorded : (({} : History).run interval before).Recorded :=
      History.recorded_fresh.run before
    have member : first ∈ (({} : History).run interval before).calls := by
      rw [callsBefore]
      exact List.mem_append_right _ List.mem_cons_self
    obtain ⟨last, isLast, upTo⟩ := recorded.latest first member firstEmitted
    rw [sameKind] at isLast
    have apart := recorded.add_le isLast (by rw [isCall]; exact secondEmitted)
    have now : second.time = (({} : History).run interval before).time := by
      rw [← isCall]
      rfl
    omega
  · obtain ⟨before, rfl, isCall⟩ := History.exists_moment split
    rw [← isCall]
    rw [← isCall] at counts
    exact (History.recorded_fresh.run before).emitted_iff _ counts
  · have start : History.Agrees kind {} {} := ⟨rfl, rfl, rfl⟩
    exact (start.run actions).calls.symm

/-- A warning comes up again after 59 and after 60 seconds, with one of another class in between.
The one that is suppressed does not put the next one off. -/
theorem run_keeps_interval_of_suppressed :
    let second := 1000000000
    let actions : List Action :=
      [.raise .admission, .raise .handler, .advance (59 * second), .raise .admission,
        .advance second, .raise .admission]
    let first : Call := ⟨.admission, 0, true⟩
    let other : Call := ⟨.handler, 0, true⟩
    let suppressed : Call := ⟨.admission, 59 * second, false⟩
    let last : Call := ⟨.admission, 60 * second, true⟩
    (({} : History).run (60 * second) actions).calls = [first, other, suppressed, last]
      ∧ first.time + 60 * second ≤ last.time
      ∧ (suppressed.emitted = true
          ↔ ∀ before, lastEmission? .admission [first, other] = some before →
              before + 60 * second ≤ suppressed.time) := by
  intro second actions first other suppressed last
  have calls : (({} : History).run (60 * second) actions).calls
      = [first, other, suppressed, last] := by decide +kernel
  obtain ⟨apart, exact, _⟩ := run_keeps_interval (60 * second) actions
  exact ⟨calls, apart [] first [other, suppressed] last [] calls rfl rfl rfl,
    exact [first, other] suppressed [last] calls (by decide)⟩

/-- Where the clock stops counting, a warning is suppressed although the interval is over. -/
example :
    let whole := 2 ^ 64 - 1
    (({} : History).run whole [.raise .handler, .advance whole, .raise .handler]).calls
      = [⟨.handler, 0, true⟩, ⟨.handler, whole, false⟩] := by
  decide +kernel

end Throttle

end AdmissionControl
