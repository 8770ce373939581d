import AdmissionControl.Gate.Traffic
import AdmissionControl.Proofs.Gate.Metering

/-!
# Slots behind a gate

A gate asks for a slot when a request comes and reports when its handler ends. An authenticated
request goes on even when its own attempt was rejected, and its end is reported like any other, so
it gives back a slot that it did not take. Until such a request ends, the limiter counts exactly the
requests in their handlers that were granted a slot; each that has ended makes the count at most one
lower.
-/

namespace AdmissionControl

open Wire

namespace Gate

variable {σ : Type} {plan : Plan} {backend : Backend σ} {ready : σ → Prop} {limiter : σ → Limiter}

/-- Whether the request holds a slot: the limiter granted its own attempt. -/
def Passage.holdsSlot (passage : Passage) : Bool :=
  passage.verdict.any fun verdict => verdict.contacted && verdict.admitted

/-- Whether the request was let through although the limiter rejected its own attempt. -/
def Passage.isBypass (passage : Passage) : Bool :=
  passage.verdict.any fun verdict => verdict.contacted && !verdict.admitted

/-- A request that goes on with an answer from the limiter was either granted a slot or let through
without one. -/
theorem Passage.toNat_holdsSlot_add {passage : Passage}
    (contacted : passage.verdict.any Verdict.contacted = true) :
    passage.holdsSlot.toNat + passage.isBypass.toNat = 1 := by
  unfold isBypass holdsSlot
  cases given : passage.verdict with
  | none => simp [given] at contacted
  | some verdict =>
      rw [given, Option.any_some] at contacted
      cases admitted : verdict.admitted <;> simp [contacted, admitted]

namespace Traffic

/-- A step of traffic in which no request is dropped. -/
inductive Action where
  | request (request : Http.Request) (handler : Handler)
  | release (number : Nat)
  | advance (nanoseconds : Nat)

/-- The traffic after one step. -/
def act (plan : Plan) (backend : Backend σ) (traffic : Traffic σ) : Action → Traffic σ
  | .request request handler => (traffic.request plan backend request handler).2
  | .release number => (traffic.release plan backend number).2
  | .advance nanoseconds => traffic.advance nanoseconds

/-- The traffic after a sequence of steps. -/
def run (plan : Plan) (backend : Backend σ) (traffic : Traffic σ) (actions : List Action) :
    Traffic σ :=
  actions.foldl (act plan backend) traffic

/-- How many requests in their handlers were granted a slot. -/
def held (traffic : Traffic σ) : Nat :=
  traffic.waiting.countP fun waiting => waiting.passage.holdsSlot

/-- The request whose handler ends in a step. -/
def ended? (plan : Plan) (backend : Backend σ) (traffic : Traffic σ) : Action → Option Passage
  | .request request handler =>
      match (traffic.gate.enter plan backend request).1 with
      | .passed passage => if handler.waits then none else some passage
      | .shed _ => none
  | .release number => (traffic.find? number).map fun waiting => waiting.passage
  | .advance _ => none

/-- How many handlers end in a run of requests that were let through on a rejection. -/
def bypassEnds (plan : Plan) (backend : Backend σ) (traffic : Traffic σ) : List Action → Nat
  | [] => 0
  | action :: rest =>
      ((traffic.ended? plan backend action).any Passage.isBypass).toNat
        + bypassEnds plan backend (traffic.act plan backend action) rest

/-- The limiter counts the granted requests in their handlers, less at most one for each bypassing
request that has ended. Pending requests have numbers of their own, and all had an answer from the
limiter. -/
structure Accounted (ready : σ → Prop) (limiter : σ → Limiter) (traffic : Traffic σ)
    (bypasses : Nat) : Prop where
  isReady : ready traffic.gate.backend
  numbered : (traffic.waiting.map fun waiting => waiting.number).Nodup
  numbers : ∀ waiting ∈ traffic.waiting, waiting.number < traffic.arrivals
  contacted : ∀ waiting ∈ traffic.waiting, waiting.passage.verdict.any Verdict.contacted = true
  le_held : (limiter traffic.gate.backend).inflight.toNat ≤ traffic.held
  held_le : traffic.held ≤ (limiter traffic.gate.backend).inflight.toNat + bypasses

variable {traffic : Traffic σ} {bypasses : Nat}

theorem held_append (traffic : Traffic σ) (gate : Gate σ) (arrivals : Nat) (waiting : Waiting) :
    held { gate, arrivals, waiting := traffic.waiting ++ [waiting] }
      = traffic.held + waiting.passage.holdsSlot.toNat := by
  cases holds : waiting.passage.holdsSlot <;> simp [held, holds]

/-- A request is pending once, under a number that no other has. -/
theorem Accounted.waiting_eq (accounted : Accounted ready limiter traffic bypasses) {number : Nat}
    {waiting : Waiting} (found : traffic.find? number = some waiting) :
    ∃ before after : List Waiting,
      traffic.waiting = before ++ waiting :: after
        ∧ (traffic.without number).waiting = before ++ after := by
  obtain ⟨numberEq, before, after, eq, different⟩ := List.find?_eq_some_iff_append.mp found
  have numberEq : waiting.number = number := by simpa using numberEq
  refine ⟨before, after, eq, ?_⟩
  have distinct := accounted.numbered
  rw [eq, List.map_append, List.map_cons, List.nodup_append] at distinct
  have others : ∀ other ∈ before ++ after, other.number ≠ number := by
    intro other member
    rcases List.mem_append.mp member with inBefore | inAfter
    · simpa using different other inBefore
    · intro same
      refine (List.nodup_cons.mp distinct.2.1).1 (List.mem_map.mpr ⟨other, inAfter, ?_⟩)
      rw [same, numberEq]
  have kept : (before ++ after).filter (·.number ≠ number) = before ++ after := by
    rw [List.filter_eq_self]
    intro other member
    simpa using others other member
  rw [without, eq, List.filter_append, List.filter_cons_of_neg (by simp [numberEq]),
    ← List.filter_append, kept]

/-- The end of a pending request gives back one slot. -/
theorem Accounted.release (accounted : Accounted ready limiter traffic bypasses)
    (meters : backend.Meters ready limiter) (number : Nat) :
    Accounted ready limiter (traffic.release plan backend number).2
      (bypasses
        + ((traffic.ended? plan backend (.release number)).any Passage.isBypass).toNat) := by
  cases found : traffic.find? number with
  | none => simpa [Traffic.release, ended?, found] using accounted
  | some waiting =>
      obtain ⟨before, after, eq, rest⟩ := accounted.waiting_eq found
      have member : waiting ∈ traffic.waiting := by simp [eq]
      have remain : ∀ other ∈ before ++ after, other ∈ traffic.waiting := by
        intro other inRest
        rw [eq]
        simp only [List.mem_append, List.mem_cons] at inRest ⊢
        exact inRest.imp_right .inr
      have contacted := accounted.contacted waiting member
      obtain ⟨stillReady, inflightEq⟩ :=
        leave_spec plan meters accounted.isReady contacted waiting.ending
      have distinct := accounted.numbered
      have leHeld := accounted.le_held
      have heldLe := accounted.held_le
      have heldEq : traffic.held
          = (before ++ after).countP (fun other => other.passage.holdsSlot)
            + waiting.passage.holdsSlot.toNat := by
        rw [held, eq, List.countP_append, List.countP_cons, List.countP_append]
        cases waiting.passage.holdsSlot with
        | true =>
            simp
            omega
        | false => simp
      have released := Limiter.toNat_release_inflight (limiter traffic.gate.backend)
      rw [eq] at distinct
      have oneOfBoth := Passage.toNat_holdsSlot_add contacted
      simp only [Traffic.release, ended?, found, Option.map_some, Option.any_some]
      refine ⟨stillReady, ?_, ?_, ?_, ?_, ?_⟩
      · rw [rest]
        refine distinct.sublist (List.Sublist.map _ ?_)
        simp
      · rw [rest]
        exact fun other inRest => accounted.numbers other (remain other inRest)
      · rw [rest]
        exact fun other inRest => accounted.contacted other (remain other inRest)
      · rw [held, rest, inflightEq, released]
        omega
      · rw [held, rest, inflightEq, released]
        omega

/-- What a request does whose handler waits. It is turned away on a rejection of its own attempt, or
stays pending with the answer to that attempt. -/
theorem request_cases (meters : backend.Meters ready limiter)
    (enabled : plan.settings.enabled = true) (isReady : ready traffic.gate.backend)
    (request : Http.Request) {handler : Handler} (waits : handler.waits = true) :
    let after := (traffic.request plan backend request handler).2
    let decision := (limiter traffic.gate.backend).acquire
    ∃ gate : Gate σ, ready gate.backend ∧ limiter gate.backend = decision.state
      ∧ ((decision.admitted = false
          ∧ after = { gate, arrivals := traffic.arrivals + 1, waiting := traffic.waiting })
        ∨ ∃ passage : Passage, passage.verdict.any Verdict.contacted = true
          ∧ passage.holdsSlot = decision.admitted
          ∧ after =
            { gate
              arrivals := traffic.arrivals + 1
              waiting := traffic.waiting ++ [⟨traffic.arrivals, passage, handler.ending⟩] }) := by
  intro after decision
  obtain ⟨stillReady, limiterEq, answered⟩ := enter_spec meters enabled isReady request
  cases entered : traffic.gate.enter plan backend request with
  | mk entry gate =>
      simp only [entered] at stillReady limiterEq answered
      cases entry with
      | shed response =>
          refine ⟨gate, stillReady, limiterEq, .inl ⟨answered, ?_⟩⟩
          simp only [after, Traffic.request, entered]
      | passed passage =>
          refine ⟨gate.advance handler.nanoseconds, stillReady, limiterEq,
            .inr ⟨passage, ?_, ?_, ?_⟩⟩
          · simp [answered, Verdict.ofDecision]
          · simp [Passage.holdsSlot, answered, Verdict.ofDecision, decision]
          · simp only [after, Traffic.request, entered, waits, if_true]

/-- A request whose handler waits takes a slot, and holds it, exactly if its own attempt is
granted. -/
theorem request_of_waits (meters : backend.Meters ready limiter)
    (enabled : plan.settings.enabled = true) (isReady : ready traffic.gate.backend)
    (request : Http.Request) {handler : Handler} (waits : handler.waits = true) :
    let after := (traffic.request plan backend request handler).2
    let granted := (limiter traffic.gate.backend).acquire.admitted
    (limiter after.gate.backend).inflight.toNat
        = (limiter traffic.gate.backend).inflight.toNat + granted.toNat
      ∧ after.held = traffic.held + granted.toNat := by
  intro after granted
  have taken := Limiter.toNat_acquire_inflight_eq (limiter traffic.gate.backend)
  obtain ⟨gate, _, limiterEq, ⟨rejected, eq⟩ | ⟨passage, _, holds, eq⟩⟩ :=
    request_cases meters enabled isReady request waits
  · have none : granted = false := rejected
    rw [show after = _ from eq, none, limiterEq, taken, rejected]
    exact ⟨rfl, rfl⟩
  · rw [show after = _ from eq, held_append, holds, limiterEq, taken]
    exact ⟨rfl, rfl⟩

/-- The last request is found under a number of its own, and leaves the others behind. -/
theorem find?_concat (gate : Gate σ) (arrivals : Nat) {last : Waiting}
    (others : ∀ waiting ∈ traffic.waiting, waiting.number ≠ last.number) :
    let pending : Traffic σ := { gate, arrivals, waiting := traffic.waiting ++ [last] }
    pending.find? last.number = some last
      ∧ pending.without last.number = { pending with waiting := traffic.waiting } := by
  intro pending
  have absent : traffic.waiting.find? (·.number = last.number) = none := by
    simpa using others
  have kept : traffic.waiting.filter (·.number ≠ last.number) = traffic.waiting := by
    simpa using others
  refine ⟨by simp [pending, find?, absent], ?_⟩
  simp only [without, pending, List.filter_append, kept]
  simp

/-- A handler that does not wait ends like one that is released at once. -/
theorem request_of_not_waits (plan : Plan) (backend : Backend σ)
    (numbers : ∀ waiting ∈ traffic.waiting, waiting.number < traffic.arrivals)
    (request : Http.Request) {handler : Handler} (ends : handler.waits = false) :
    let pending := (traffic.request plan backend request { handler with waits := true }).2
    (traffic.request plan backend request handler).2
        = (pending.release plan backend traffic.arrivals).2
      ∧ traffic.ended? plan backend (.request request handler)
        = pending.ended? plan backend (.release traffic.arrivals) := by
  have others : ∀ waiting ∈ traffic.waiting, waiting.number ≠ traffic.arrivals :=
    fun waiting member => Nat.ne_of_lt (numbers waiting member)
  cases entered : traffic.gate.enter plan backend request with
  | mk entry gate =>
      cases entry with
      | shed response =>
          have absent : find? { gate, arrivals := traffic.arrivals + 1, waiting := traffic.waiting }
              traffic.arrivals = none := by
            simpa [find?] using others
          simp [Traffic.request, Traffic.release, ended?, entered, absent]
      | passed passage =>
          let last : Waiting := ⟨traffic.arrivals, passage, handler.ending⟩
          have others : ∀ waiting ∈ traffic.waiting, waiting.number ≠ last.number := others
          obtain ⟨found, left⟩ :=
            find?_concat (gate.advance handler.nanoseconds) (traffic.arrivals + 1) others
          simp only [last] at found left
          simp [Traffic.request, Traffic.release, ended?, entered, ends, found, left]

/-- The end of a pending request with an answer from the limiter gives one slot back. -/
theorem release_inflight (meters : backend.Meters ready limiter)
    (isReady : ready traffic.gate.backend) {number : Nat} {waiting : Waiting}
    (found : traffic.find? number = some waiting)
    (contacted : waiting.passage.verdict.any Verdict.contacted = true) :
    (limiter (traffic.release plan backend number).2.gate.backend).inflight.toNat
      = (limiter traffic.gate.backend).inflight.toNat - 1 := by
  obtain ⟨_, inflightEq⟩ := leave_spec plan meters isReady contacted waiting.ending
  simp only [Traffic.release, found]
  rw [inflightEq, Limiter.toNat_release_inflight]

/-- A request whose handler waits keeps the account. -/
theorem Accounted.request_of_waits (accounted : Accounted ready limiter traffic bypasses)
    (meters : backend.Meters ready limiter) (enabled : plan.settings.enabled = true)
    (request : Http.Request) {handler : Handler} (waits : handler.waits = true) :
    Accounted ready limiter (traffic.request plan backend request handler).2 bypasses := by
  have numbers : ∀ waiting ∈ traffic.waiting, waiting.number < traffic.arrivals + 1 :=
    fun waiting member => Nat.lt_succ_of_lt (accounted.numbers waiting member)
  obtain ⟨inflightEq, heldEq⟩ :=
    Traffic.request_of_waits meters enabled accounted.isReady request waits
  generalize (limiter traffic.gate.backend).acquire.admitted.toNat = granted
    at inflightEq heldEq
  have leHeld := Nat.add_le_add_right accounted.le_held granted
  have heldLe := Nat.add_le_add_right accounted.held_le granted
  rw [← inflightEq, ← heldEq] at leHeld
  rw [Nat.add_right_comm, ← inflightEq, ← heldEq] at heldLe
  obtain ⟨gate, stillReady, _, ⟨_, eq⟩ | ⟨passage, contacted, _, eq⟩⟩ :=
    request_cases meters enabled accounted.isReady request waits <;>
    rw [eq] at leHeld heldLe ⊢
  · exact ⟨stillReady, accounted.numbered, numbers, accounted.contacted, leHeld, heldLe⟩
  · refine ⟨stillReady, ?_, ?_, ?_, leHeld, heldLe⟩
    · rw [List.map_append, List.nodup_append]
      refine ⟨accounted.numbered, by simp, ?_⟩
      simp only [List.mem_map, List.map_singleton, List.mem_singleton]
      rintro _ ⟨waiting, member, rfl⟩ _ rfl
      exact Nat.ne_of_lt (accounted.numbers waiting member)
    · exact List.forall_mem_append.mpr
        ⟨numbers, List.forall_mem_singleton.mpr (Nat.lt_succ_self _)⟩
    · exact List.forall_mem_append.mpr
        ⟨accounted.contacted, List.forall_mem_singleton.mpr contacted⟩

/-- A request that comes keeps the account. A handler that ends in the same step is accounted for
like one that waits and is released. -/
theorem Accounted.request (accounted : Accounted ready limiter traffic bypasses)
    (meters : backend.Meters ready limiter) (enabled : plan.settings.enabled = true)
    (request : Http.Request) (handler : Handler) :
    Accounted ready limiter (traffic.request plan backend request handler).2
      (bypasses
        + ((traffic.ended? plan backend (.request request handler)).any
            Passage.isBypass).toNat) := by
  cases waits : handler.waits with
  | true =>
      have goesOn : traffic.ended? plan backend (.request request handler) = none := by
        simp only [ended?, waits, if_true]
        split <;> rfl
      rw [goesOn]
      exact accounted.request_of_waits meters enabled request waits
  | false =>
      obtain ⟨after, ended⟩ := request_of_not_waits plan backend accounted.numbers request waits
      rw [after, ended]
      exact (accounted.request_of_waits meters enabled request rfl).release meters traffic.arrivals

/-- Every step keeps the account. -/
theorem Accounted.act (accounted : Accounted ready limiter traffic bypasses)
    (meters : backend.Meters ready limiter) (enabled : plan.settings.enabled = true)
    (action : Action) :
    Accounted ready limiter (traffic.act plan backend action)
      (bypasses + ((traffic.ended? plan backend action).any Passage.isBypass).toNat) := by
  cases action with
  | request request handler => exact accounted.request meters enabled request handler
  | release number => exact accounted.release meters number
  | advance nanoseconds =>
      obtain ⟨isReady, numbered, numbers, contacted, leHeld, heldLe⟩ := accounted
      exact ⟨isReady, numbered, numbers, contacted, leHeld, heldLe⟩

/-- The account holds after every run. -/
theorem Accounted.run (accounted : Accounted ready limiter traffic bypasses)
    (meters : backend.Meters ready limiter) (enabled : plan.settings.enabled = true)
    (actions : List Action) :
    Accounted ready limiter (traffic.run plan backend actions)
      (bypasses + traffic.bypassEnds plan backend actions) := by
  induction actions generalizing traffic bypasses with
  | nil => exact accounted
  | cons action rest inductionHypothesis =>
      have after := inductionHypothesis (accounted.act meters enabled action)
      rwa [Nat.add_assoc] at after

/-- Traffic before its first request, at a gate whose client has a daemon for itself. -/
def atDaemon (daemon : Daemon) : Traffic (Backend.Shared Daemon Nat) where
  gate := { backend := { world := daemon } }

/-- The number in flight at the daemon behind a gate. -/
def inflight (traffic : Traffic (Backend.Shared Daemon Nat)) : Nat :=
  traffic.gate.backend.world.limiter.inflight.toNat

/-- How the slots of a daemon are accounted for behind the gate that has it for itself, if it
carries every request line. After every run of requests whose handlers end in any order, the daemon counts
no more than the granted requests in their handlers, and at most one less than these for each
bypassing request that has ended; so it counts exactly these until one ends. From there on, a
request that comes takes a slot exactly if its own attempt is granted, which is also when it holds
one, and the end of every pending request gives one slot back while any is taken. -/
theorem run_atDaemon_slots (plan : Plan) (enabled : plan.settings.enabled = true)
    (enough : Request.longestLine ≤ plan.settings.lineLimit.toNat) (site : Site) (daemon : Daemon)
    (started : Daemon.start plan.settings.daemonPlan site = .bound daemon)
    (actions : List Action) :
    let backend := Backend.daemon plan.settings.daemonPlan
    let traffic := (atDaemon daemon).run plan backend actions
    let bypasses := (atDaemon daemon).bypassEnds plan backend actions
    let granted := traffic.gate.backend.world.limiter.acquire.admitted
    (traffic.inflight ≤ traffic.held ∧ traffic.held ≤ traffic.inflight + bypasses)
      ∧ (bypasses = 0 → traffic.inflight = traffic.held)
      ∧ (∀ request handler, handler.waits = true →
          let after := (traffic.request plan backend request handler).2
          after.inflight = traffic.inflight + granted.toNat
            ∧ after.held = traffic.held + granted.toNat)
      ∧ (∀ number waiting, traffic.find? number = some waiting →
          (traffic.release plan backend number).2.inflight = traffic.inflight - 1) := by
  intro backend traffic bypasses granted
  have meters : backend.Meters (Backend.Serving plan.settings.daemonPlan) (·.world.limiter) :=
    Backend.daemon_meters enough
  have accounted : Accounted (Backend.Serving plan.settings.daemonPlan) (·.world.limiter)
      (atDaemon daemon) 0 := by
    refine ⟨Backend.serving_of_start started, List.nodup_nil, by simp [atDaemon],
      by simp [atDaemon], ?_, Nat.zero_le _⟩
    obtain ⟨_, pool⟩ := Daemon.isReady_of_start started
    simp only [atDaemon, Daemon.limiter, pool]
    exact Nat.le_refl _
  obtain ⟨isReady, _, _, contacted, leHeld, heldLe⟩ := accounted.run meters enabled actions
  rw [Nat.zero_add] at heldLe
  refine ⟨⟨leHeld, heldLe⟩, fun none => ?_, ?_, ?_⟩
  · change _ ≤ _ + bypasses at heldLe
    rw [none] at heldLe
    exact Nat.le_antisymm leHeld heldLe
  · intro request handler waits
    exact request_of_waits meters enabled isReady request waits
  · intro number waiting found
    have member := List.mem_of_find?_eq_some found
    exact release_inflight meters isReady found (contacted waiting member)

/-- One worker, two anonymous requests: the first holds the slot that the daemon counts, and the
second is turned away. -/
theorem run_atDaemon_slots_one_worker :
    let plan : Plan := ⟨{ enabled := true, workers := 1 }, .cookie "_t".toList⟩
    let daemon : Daemon := .fresh plan.settings.daemonPlan { entry := .socket }
    let anonymous : Http.Request := ⟨"/".toList, []⟩
    let actions : List Action :=
      [.request anonymous ⟨0, true, .panicked⟩, .request anonymous ⟨0, true, .panicked⟩]
    let traffic := (atDaemon daemon).run plan (.daemon plan.settings.daemonPlan) actions
    plan.settings.enabled = true
      ∧ Request.longestLine ≤ plan.settings.lineLimit.toNat
      ∧ Daemon.start plan.settings.daemonPlan {} = .bound daemon
      ∧ traffic.held = 1
      ∧ traffic.inflight = traffic.held := by
  intro plan daemon anonymous actions traffic
  refine ⟨rfl, by decide, by decide +kernel, by decide +kernel, ?_⟩
  exact (run_atDaemon_slots plan rfl (by decide) {} daemon (by decide +kernel) actions).2.1
    (by decide +kernel)

/-- An authenticated request that is let through on a rejection gives back the slot of another when
it ends. And under the least acceptable limit on lines, no end gives back even the slot of its own
request. -/
theorem run_atDaemon_bypass_releases_other :
    let settings : Settings := { enabled := true, workers := 1 }
    let anonymous : Http.Request := ⟨"/".toList, []⟩
    let authenticated : Http.Request := ⟨"/".toList, [Text.encode "_t=x".toList]⟩
    let traffic (settings : Settings) (actions : List Action) :=
      (atDaemon (.fresh settings.daemonPlan { entry := .socket })).run
        ⟨settings, .cookie settings.authCookie⟩ (.daemon settings.daemonPlan) actions
    let bypassed := traffic settings
      [.request anonymous ⟨0, true, .panicked⟩, .request authenticated ⟨0, false, .panicked⟩]
    let unreported := traffic { settings with lineLimit := 16 }
      [.request anonymous ⟨0, false, .panicked⟩]
    settings.validate = .ok ()
      ∧ Settings.validate { settings with lineLimit := 16 } = .ok ()
      ∧ (bypassed.held = 1 ∧ bypassed.inflight = 0)
      ∧ (unreported.held = 0 ∧ unreported.inflight = 1) := by
  decide +kernel

end Traffic

end Gate

end AdmissionControl
