import AdmissionControl.Proofs.Gate.Moves
import Mathlib.Data.List.Nodup

/-!
# Slots of requests that are dropped

Over a whole run, a request is granted one slot at most and reports once at most. When it is over it
has reported exactly if its slot was not lost. The number in flight is therefore what it was before,
and one for each slot that is held or lost. Only reports on requests that were let through on a
rejection, and hold no slot, make it lower.
-/

namespace AdmissionControl

open Wire

namespace Gate.Crowd

variable {σ κ : Type}

/-- The crowd after a sequence of steps. -/
def run (plan : Plan) (transport : Transport σ κ) (crowd : Crowd σ κ) (actions : List Action) :
    Crowd σ κ :=
  actions.foldl (act plan transport) crowd

/-- The requests that are noted in the steps of a run. -/
def noted (plan : Plan) (transport : Transport σ κ) (note : Crowd σ κ → Action → Option Nat)
    (crowd : Crowd σ κ) : List Action → List Nat
  | [] => []
  | action :: rest =>
      (note crowd action).toList ++ noted plan transport note (crowd.act plan transport action) rest

/-- What was granted, reported and lost in a run, and the number in flight. A request that holds a
slot has been granted it, and has neither reported nor lost it. -/
structure Accounted (attends : σ → Option κ → Prop) (limiter : σ → Limiter) (base : Nat)
    (granted reported lost : List Nat) (crowd : Crowd σ κ) : Prop where
  sound : crowd.Sound attends
  slot : ∀ number,
    crowd.holds number = true ↔ number ∈ granted ∧ number ∉ reported ∧ number ∉ lost
  due : ∀ number,
    reported.count number + lost.count number + (crowd.mayReport number).toNat ≤ 1
  once : granted.Nodup
  lostSlots : ∀ number ∈ lost, number ∈ granted
  le : (limiter crowd.world).inflight.toNat ≤ base + granted.countP (· ∉ reported)
  ge : base + granted.countP (· ∉ reported)
    ≤ (limiter crowd.world).inflight.toNat + reported.countP (· ∉ granted)

variable {plan : Plan} {transport : Transport σ κ} {attends : σ → Option κ → Prop}
  {limiter : σ → Limiter} {crowd after : Crowd σ κ}

theorem noted_concat (note : Crowd σ κ → Action → Option Nat) (crowd : Crowd σ κ)
    (actions : List Action) (action : Action) :
    crowd.noted plan transport note (actions ++ [action])
      = crowd.noted plan transport note actions
        ++ (note (crowd.run plan transport actions) action).toList := by
  induction actions generalizing crowd with
  | nil => simp [noted, run]
  | cons first rest inductionHypothesis =>
      simp only [List.cons_append, noted, inductionHypothesis, List.append_assoc]
      rfl

theorem run_concat (crowd : Crowd σ κ) (actions : List Action) (action : Action) :
    crowd.run plan transport (actions ++ [action])
      = (crowd.run plan transport actions).act plan transport action := by
  simp [run]

/-- How many of some numbers are not among others, when one more is. -/
theorem countP_notMem_concat {number : Nat} {others : List Nat} (new : number ∉ others)
    (numbers : List Nat) :
    numbers.countP (· ∉ others ++ [number]) + numbers.count number
      = numbers.countP (· ∉ others) := by
  induction numbers with
  | nil => rfl
  | cons first rest inductionHypothesis =>
      rw [List.countP_cons, List.countP_cons, List.count_cons, ← inductionHypothesis]
      by_cases same : first = number
      · simp [same, new]
        omega
      · simp [same]
        omega

section Account

variable {base number : Nat} {granted reported lost : List Nat}

theorem holds_congr {other : Nat} (same : after.standing other = crowd.standing other) :
    after.holds other = crowd.holds other := by
  rw [holds, holds, same]

theorem mayReport_congr {other : Nat} (same : after.standing other = crowd.standing other) :
    after.mayReport other = crowd.mayReport other := by
  rw [mayReport, mayReport, same]

/-- A request that may still report has not, and has not lost its slot. -/
theorem Accounted.notMem_of_mayReport
    (accounted : Accounted attends limiter base granted reported lost crowd)
    (due : crowd.mayReport number = true) : number ∉ reported ∧ number ∉ lost := by
  have counted := accounted.due number
  rw [due, Bool.toNat_true] at counted
  exact ⟨List.count_eq_zero.mp (by omega), List.count_eq_zero.mp (by omega)⟩

/-- A request that has reported or lost its slot is done with it. -/
theorem Accounted.due_of_done
    (accounted : Accounted attends limiter base granted reported lost crowd)
    (others : crowd.Spares after number)
    (due : crowd.mayReport number = true) (done : after.mayReport number = false) (other : Nat) :
    reported.count other + lost.count other + [number].count other
      + (after.mayReport other).toNat ≤ 1 := by
  have before := accounted.due other
  by_cases concerned : other = number
  · subst concerned
    rw [due, Bool.toNat_true] at before
    rw [done, Bool.toNat_false, List.count_singleton_self]
    omega
  · have absent : [number].count other = 0 := List.count_eq_zero.mpr (by simpa using concerned)
    rw [mayReport_congr (others other concerned), absent]
    omega

/-- The account with a step that moves no slot. -/
theorem Accounted.keep (accounted : Accounted attends limiter base granted reported lost crowd)
    (sound : after.Sound attends)
    (others : crowd.Spares after number)
    (slot : after.holds number = crowd.holds number)
    (due : after.mayReport number = true → crowd.mayReport number = true)
    (same : (limiter after.world).inflight.toNat = (limiter crowd.world).inflight.toNat) :
    Accounted attends limiter base granted reported lost after := by
  refine ⟨sound, fun other => ?_, fun other => ?_, accounted.once, accounted.lostSlots,
    same ▸ accounted.le, same ▸ accounted.ge⟩
  · by_cases concerned : other = number
    · rw [concerned, slot, accounted.slot number]
    · rw [holds_congr (others other concerned), accounted.slot other]
  · have dueBefore := accounted.due other
    have noMore : (after.mayReport other).toNat ≤ (crowd.mayReport other).toNat := by
      by_cases concerned : other = number
      · cases isDue : after.mayReport number with
        | false => simp [concerned, isDue]
        | true => simp [concerned, isDue, due isDue]
      · rw [mayReport_congr (others other concerned)]
    omega

/-- The account with a slot that is granted. -/
theorem Accounted.grant (accounted : Accounted attends limiter base granted reported lost crowd)
    (sound : after.Sound attends)
    (others : crowd.Spares after number)
    (free : crowd.holds number = false) (due : crowd.mayReport number = true)
    (slot : after.holds number = true)
    (taken : (limiter after.world).inflight.toNat = (limiter crowd.world).inflight.toNat + 1) :
    Accounted attends limiter base (granted ++ [number]) reported lost after := by
  obtain ⟨unreported, kept⟩ := accounted.notMem_of_mayReport due
  -- A request that was granted a slot before would hold it still, or be done with its report.
  have new : number ∉ granted := by
    intro grantedBefore
    have held := (accounted.slot number).mpr ⟨grantedBefore, unreported, kept⟩
    rw [free] at held
    cases held
  have unreturned : (granted ++ [number]).countP (· ∉ reported)
      = granted.countP (· ∉ reported) + 1 := by
    simp [unreported]
  have strays := countP_notMem_concat new reported
  rw [List.count_eq_zero.mpr unreported, Nat.add_zero] at strays
  refine ⟨sound, fun other => ?_, fun other => ?_, ?_, ?_, ?_, ?_⟩
  · by_cases concerned : other = number
    · simp [concerned, slot, unreported, kept]
    · simp [holds_congr (others other concerned), accounted.slot other, concerned]
  · by_cases concerned : other = number
    · rw [concerned, List.count_eq_zero.mpr unreported, List.count_eq_zero.mpr kept, Nat.zero_add]
      exact Bool.toNat_le _
    · rw [mayReport_congr (others other concerned)]
      exact accounted.due other
  · rw [← List.concat_eq_append]
    exact List.Nodup.concat new accounted.once
  · exact fun other isLost => List.mem_append_left _ (accounted.lostSlots other isLost)
  · rw [taken, unreturned]
    exact Nat.succ_le_succ accounted.le
  · rw [taken, unreturned, strays]
    have := accounted.ge
    omega

/-- The account with a report that is sent. It gives back the slot of its request, or one of another
if the request has none. -/
theorem Accounted.report (accounted : Accounted attends limiter base granted reported lost crowd)
    (sound : after.Sound attends)
    (others : crowd.Spares after number)
    (due : crowd.mayReport number = true) (slot : after.holds number = false)
    (done : after.mayReport number = false)
    (given : (limiter after.world).inflight.toNat = (limiter crowd.world).inflight.toNat - 1) :
    Accounted attends limiter base granted (reported ++ [number]) lost after := by
  obtain ⟨unreported, _⟩ := accounted.notMem_of_mayReport due
  have le := accounted.le
  have ge := accounted.ge
  have unreturned := countP_notMem_concat unreported granted
  -- The report of a request without a slot is one more that `ge` has to allow for. Nothing in flight
  -- is no exception, since a report takes one off at most.
  have strays : (reported ++ [number]).countP (· ∉ granted) + granted.count number
      = reported.countP (· ∉ granted) + 1 := by
    by_cases isGranted : number ∈ granted
    · simp [isGranted, List.count_eq_one_of_mem accounted.once isGranted]
    · simp [isGranted, List.count_eq_zero.mpr isGranted]
  have once := List.nodup_iff_count_le_one.mp accounted.once number
  refine ⟨sound, fun other => ?_, fun other => ?_, accounted.once, accounted.lostSlots, ?_, ?_⟩
  · by_cases concerned : other = number
    · simp [concerned, slot]
    · simp [holds_congr (others other concerned), accounted.slot other, concerned]
  · have := accounted.due_of_done others due done other
    rw [List.count_append]
    omega
  · rw [given]
    omega
  · rw [given]
    omega

/-- The account with a slot that is lost. -/
theorem Accounted.lose (accounted : Accounted attends limiter base granted reported lost crowd)
    (sound : after.Sound attends)
    (others : crowd.Spares after number)
    (held : crowd.holds number = true) (due : crowd.mayReport number = true)
    (slot : after.holds number = false) (done : after.mayReport number = false)
    (same : (limiter after.world).inflight.toNat = (limiter crowd.world).inflight.toNat) :
    Accounted attends limiter base granted reported (lost ++ [number]) after := by
  refine ⟨sound, fun other => ?_, fun other => ?_, accounted.once, ?_, same ▸ accounted.le,
    same ▸ accounted.ge⟩
  · by_cases concerned : other = number
    · simp [concerned, slot]
    · simp [holds_congr (others other concerned), accounted.slot other, concerned]
  · have := accounted.due_of_done others due done other
    rw [List.count_append]
    omega
  · intro other isLost
    rcases List.mem_append.mp isLost with before | now
    · exact accounted.lostSlots other before
    · obtain rfl : other = number := List.mem_singleton.mp now
      exact ((accounted.slot other).mp held).1

/-- The account after a step. -/
theorem Accounted.moves (accounted : Accounted attends limiter base granted reported lost crowd)
    (sound : after.Sound attends) {grants reports loses : Option Nat}
    (moves : Moves limiter crowd after grants reports loses) :
    Accounted attends limiter base (granted ++ grants.toList) (reported ++ reports.toList)
      (lost ++ loses.toList) after := by
  cases moves <;> simp only [Option.toList_none, Option.toList_some, List.append_nil]
  case keep number others slot due same => exact accounted.keep sound others slot due same
  case grant number others free due slot taken =>
    exact accounted.grant sound others free due slot taken
  case report number others due slot done given =>
    exact accounted.report sound others due slot done given
  case lose number others held due slot done same =>
    exact accounted.lose sound others held due slot done same

/-- The account holds after every run. -/
theorem Accounted.run (accounted : Accounted attends limiter base [] [] [] crowd)
    (plan : Plan) (meters : transport.Meters attends limiter) (actions : List Action) :
    Accounted attends limiter base (crowd.noted plan transport (granted? limiter) actions)
      (crowd.noted plan transport reported? actions) (crowd.noted plan transport lost? actions)
      (crowd.run plan transport actions) := by
  induction actions using List.reverseRecOn with
  | nil => exact accounted
  | append_singleton actions action inductionHypothesis =>
      obtain ⟨sound, moves⟩ := act_moves plan inductionHypothesis.sound meters action
      simp only [noted_concat, run_concat]
      exact inductionHypothesis.moves sound moves

/-- Nothing is granted, reported or lost before the first step. -/
theorem Sound.accounted (sound : crowd.Sound attends) (limiter : σ → Limiter)
    (free : ∀ number, crowd.holds number = false) :
    Accounted attends limiter (limiter crowd.world).inflight.toNat [] [] [] crowd where
  sound
  slot number := by simp [free number]
  due number := by simpa using Bool.toNat_le _
  once := List.nodup_nil
  lostSlots := by simp
  le := Nat.le_refl _
  ge := Nat.le_refl _

variable (accounted : Accounted attends limiter base granted reported lost crowd)
include accounted

theorem Accounted.nodup_reported : reported.Nodup := by
  rw [List.nodup_iff_count_le_one]
  intro number
  have := accounted.due number
  omega

theorem Accounted.nodup_lost : lost.Nodup := by
  rw [List.nodup_iff_count_le_one]
  intro number
  have := accounted.due number
  omega

/-- No slot is lost whose request has reported. -/
theorem Accounted.notMem_reported_of_mem_lost (isLost : number ∈ lost) : number ∉ reported := by
  have counted := accounted.due number
  have lostOnce := List.count_pos_iff.mpr isLost
  exact List.count_eq_zero.mp (by omega)

/-- A slot that is held no more was given back or lost. -/
theorem Accounted.mem_reported_iff (free : crowd.holds number = false)
    (isGranted : number ∈ granted) : number ∈ reported ↔ number ∉ lost := by
  constructor
  · exact fun isReported isLost => accounted.notMem_reported_of_mem_lost isLost isReported
  · intro kept
    by_contra unreported
    have held := (accounted.slot number).mpr ⟨isGranted, unreported, kept⟩
    rw [free] at held
    cases held

/-- When no slot is held any more, those that were not given back are lost. -/
theorem Accounted.countP_eq_length_lost (free : ∀ number, crowd.holds number = false) :
    granted.countP (· ∉ reported) = lost.length := by
  rw [List.countP_eq_length_filter]
  refine List.Perm.length_eq ?_
  rw [List.perm_ext_iff_of_nodup (accounted.once.filter _) accounted.nodup_lost]
  intro number
  rw [List.mem_filter, decide_eq_true_eq]
  constructor
  · rintro ⟨isGranted, unreported⟩
    by_contra kept
    exact unreported ((accounted.mem_reported_iff (free number) isGranted).mpr kept)
  · intro isLost
    exact ⟨accounted.lostSlots number isLost, accounted.notMem_reported_of_mem_lost isLost⟩

end Account

section Over

variable {number : Nat}

/-- A request that is over holds no slot. -/
theorem Sound.holds_of_isOver (sound : crowd.Sound attends) {stage : Stage}
    (found : crowd.requests[number]? = some stage) (finished : stage.isOver = true) :
    crowd.holds number = false := by
  have stands : crowd.standing number = some (.atStage stage) := by
    rw [sound.standing_of_ne_calling ?_, found, Option.map_some]
    rintro isCalling
    obtain rfl : stage = .calling := Option.some.inj (found.symm.trans isCalling)
    cases finished
  exact (holds_of_standing stands).trans (Stage.holdsSlot_of_isOver finished)

/-- When all requests are over, none holds a slot. -/
theorem Sound.holds_of_forall_isOver (sound : crowd.Sound attends)
    (finished : ∀ stage ∈ crowd.requests, stage.isOver = true) (number : Nat) :
    crowd.holds number = false := by
  cases found : crowd.requests[number]? with
  | some stage => exact sound.holds_of_isOver found (finished stage (List.mem_of_getElem? found))
  | none => rw [holds, sound.standing_of_ne_calling (by simp [found]), found]; rfl

end Over

/-- The number in flight at the daemon behind a gate. -/
def inflight (crowd : Crowd Daemon Nat) : Nat := crowd.world.limiter.inflight.toNat

/-- How slots come back to a daemon that has a worker for the client of a gate, and carries every
request line, when requests are dropped anywhere. In a run that starts with no request pending, each
request is granted one slot at most, and reports once at most. Once it is over, a request that was
granted a slot has given it back by its report, unless it was dropped in a step that loses the slot;
then it never reports. The number in flight is what it was before, and one for each slot that was
granted and not yet given back, apart from reports on requests that were granted none. A report that
waits for the client, be it of a request that was dropped, is delivered once it has the client, and
gives a slot back. So when all requests are over the number in flight is what it was, and one for
each slot that was lost. -/
theorem run_returns_slots_unless_lost (plan : Plan)
    (enough : Request.longestLine ≤ plan.settings.lineLimit.toNat)
    (gate : Gate (Backend.Shared Daemon Nat)) (others : List (Nat × Session))
    (connection : Option Nat) (linked : gate.backend.client.link = connection.map (⟨·, []⟩))
    (attends : Daemon.Attends plan.settings.daemonPlan others gate.backend.world connection)
    (actions : List Action) :
    let transport := Daemon.transport plan.settings.daemonPlan
    let start : Crowd Daemon Nat := { gate }
    let crowd := start.run plan transport actions
    let granted := start.noted plan transport (granted? Daemon.limiter) actions
    let reported := start.noted plan transport reported? actions
    let lost := start.noted plan transport lost? actions
    let unreturned := granted.countP (· ∉ reported)
    let strays := reported.countP (· ∉ granted)
    (granted.Nodup ∧ reported.Nodup ∧ lost.Nodup)
      ∧ (∀ number ∈ lost, number ∈ granted ∧ number ∉ reported)
      ∧ (∀ number stage, crowd.requests[number]? = some stage → stage.isOver = true →
          number ∈ granted → (number ∈ reported ↔ number ∉ lost))
      ∧ (crowd.inflight ≤ start.inflight + unreturned
        ∧ start.inflight + unreturned ≤ crowd.inflight + strays)
      ∧ (∀ number job, crowd.calling = none → crowd.requests[number]? = some (.waiting job) →
          job.reports = true →
          let reporting := crowd.callThrough plan transport number
          (∃ stage, reporting.requests[number]? = some stage ∧ stage.isOver = true)
            ∧ reporting.inflight = crowd.inflight - 1)
      ∧ ((∀ stage ∈ crowd.requests, stage.isOver = true) →
          unreturned = lost.length
            ∧ (strays = 0 → crowd.inflight = start.inflight + lost.length)) := by
  intro transport start crowd granted reported lost unreturned strays
  have meters : transport.Meters (Daemon.Attends plan.settings.daemonPlan others) Daemon.limiter :=
    Daemon.transport_meters others enough
  have sound : start.Sound (Daemon.Attends plan.settings.daemonPlan others) :=
    ⟨connection, linked, attends⟩
  have unasked : ∀ stage ∈ start.requests, stage.isOver = true := by simp [start]
  have accounted := (sound.accounted Daemon.limiter
    (sound.holds_of_forall_isOver unasked)).run plan meters actions
  refine ⟨⟨accounted.once, accounted.nodup_reported, accounted.nodup_lost⟩, ?_, ?_,
    ⟨accounted.le, accounted.ge⟩, ?_, ?_⟩
  · intro number isLost
    exact ⟨accounted.lostSlots number isLost, accounted.notMem_reported_of_mem_lost isLost⟩
  · intro number stage found finished isGranted
    exact accounted.mem_reported_iff (accounted.sound.holds_of_isOver found finished) isGranted
  · intro number job free waits reports
    exact (callThrough_of_reports plan accounted.sound meters free waits reports).2
  · intro finished
    have allBack : unreturned = lost.length :=
      accounted.countP_eq_length_lost (accounted.sound.holds_of_forall_isOver finished)
    refine ⟨allBack, fun none => ?_⟩
    have le : crowd.inflight ≤ start.inflight + unreturned := accounted.le
    have ge : start.inflight + unreturned ≤ crowd.inflight + strays := accounted.ge
    omega

/-- Two requests: the first is dropped in its handler, and its slot comes back. The second is
dropped before it reads that it was granted one, which is lost. -/
theorem run_returns_slots_unless_lost_of_two :
    let plan : Plan := ⟨{ enabled := true, workers := 2 }, .cookie "_t".toList⟩
    let transport := Daemon.transport plan.settings.daemonPlan
    let daemon : Daemon := .fresh plan.settings.daemonPlan { entry := .socket }
    let start : Crowd Daemon Nat := { gate := { backend := { world := daemon } } }
    let anonymous : Http.Request := ⟨"/".toList, []⟩
    let actions : List Action :=
      [.come anonymous, .come anonymous, .take 0, .send, .receive, .drop 0 true, .take 1, .send,
        .drop 1 true, .take 0, .send, .receive]
    Request.longestLine ≤ plan.settings.lineLimit.toNat
      ∧ Daemon.Attends plan.settings.daemonPlan [] daemon none
      ∧ start.noted plan transport (granted? Daemon.limiter) actions = [0, 1]
      ∧ start.noted plan transport reported? actions = [0]
      ∧ start.noted plan transport lost? actions = [1]
      ∧ (start.run plan transport actions).inflight = start.inflight + 1 := by
  intro plan transport daemon start anonymous actions
  have started : Daemon.start plan.settings.daemonPlan {} = .bound daemon := by decide +kernel
  have attends := Daemon.attends_of_start started
  have lost : start.noted plan transport lost? actions = [1] := by decide +kernel
  have finished : ∀ stage ∈ (start.run plan transport actions).requests, stage.isOver = true := by
    decide +kernel
  refine ⟨by decide, attends, by decide +kernel, by decide +kernel, lost, ?_⟩
  obtain ⟨_, _, _, _, _, back⟩ :=
    run_returns_slots_unless_lost plan (by decide) start.gate [] none rfl attends actions
  have inflight := (back finished).2 (by decide +kernel)
  rw [lost] at inflight
  exact inflight

/-- Slots that do not come back, although all requests are over and every report has run. A request
is dropped before it reads that it was granted a slot, before its report has the client, or in its
handler where nothing can run the report. A line limit below the longest report lets a slot go even
then. And a slot that was lost comes back in the report of a request which was let through on a
rejection. -/
theorem run_drops_lose_slots :
    let settings : Settings := { enabled := true, workers := 1 }
    let narrow : Settings := { settings with lineLimit := 16 }
    let run (settings : Settings) (crowd : Crowd Daemon Nat) (actions : List Action) :=
      crowd.run ⟨settings, .cookie settings.authCookie⟩ (Daemon.transport settings.daemonPlan)
        actions
    let start (settings : Settings) : Crowd Daemon Nat :=
      { gate := { backend := { world := .fresh settings.daemonPlan { entry := .socket } } } }
    let anonymous : Http.Request := ⟨"/".toList, []⟩
    let authenticated : Http.Request := ⟨"/".toList, [Text.encode "_t=x".toList]⟩
    let asked : List Action := [.come anonymous, .take 0, .send]
    let called : List Action := [.take 0, .send, .receive]
    let unread := run settings (start settings) (asked ++ [.drop 0 true])
    let unreported := run settings (start settings)
      (asked ++ [.receive, .finish 0 .panicked, .drop 0 true])
    let unreleased := run settings (start settings) (asked ++ [.receive, .drop 0 false])
    let unheard := run narrow (start narrow) (asked ++ [.receive, .drop 0 true] ++ called)
    let again : Crowd Daemon Nat := { gate := unread.gate }
    let bypassed := run settings again
      ([.come authenticated] ++ called ++ [.finish 0 .panicked] ++ called)
    (settings.validate = .ok () ∧ narrow.validate = .ok ())
      ∧ (∀ crowd ∈ [unread, unreported, unreleased, unheard, bypassed],
          ∀ stage ∈ crowd.requests, stage.isOver = true)
      ∧ ((start settings).inflight = 0 ∧ (start narrow).inflight = 0)
      ∧ (∀ crowd ∈ [unread, unreported, unreleased, unheard], crowd.inflight = 1)
      ∧ (again.inflight = 1 ∧ bypassed.inflight = 0) := by
  decide +kernel

end Gate.Crowd

end AdmissionControl
