import AdmissionControl.Proofs.Pool.Staffing

/-!
# The phases of a pool

Peers leave a pool in the phase it is in, except that a pool that drains stops with its last
session. A shutdown stops it, and it stays so.
-/

namespace AdmissionControl.Pool

variable {plan : Plan} {pool : Pool}

theorem phase_takeUpFrom (plan : Plan) (pool : Pool) (waiting : List (Nat × Inbox)) :
    (pool.takeUpFrom plan waiting).phase = pool.phase := by
  induction waiting generalizing pool with
  | nil => rfl
  | cons entry rest inductionHypothesis =>
      unfold takeUpFrom
      split
      · exact (inductionHypothesis _).trans (phase_settle ..)
      · rfl

/-- Only a pool that drains changes its phase by itself. -/
theorem phase_proceed (notDraining : pool.phase ≠ .draining) :
    (pool.proceed plan).phase = pool.phase := by
  unfold proceed
  split
  · exact phase_takeUpFrom ..
  · next draining => exact absurd draining notDraining
  · rfl

/-- Peers do not begin or end a shutdown. -/
theorem phase_perform_of_isOfPeer (notDraining : pool.phase ≠ .draining) {action : Action}
    (isOfPeer : action.isOfPeer = true) : (pool.perform plan action).phase = pool.phase := by
  cases action with
  | submit inbox =>
      unfold Pool.perform submit
      dsimp only
      split
      · rfl
      · split
        · exact phase_proceed notDraining
        · rfl
  | act number action =>
      unfold Pool.perform act
      dsimp only
      split
      · next session _ =>
        have settled := phase_settle (pool.without number) number
          (action.onTurn plan.service { session, limiter := pool.limiter })
        exact (phase_proceed (settled.trans_ne notDraining)).trans settled
      · rfl
  | beginShutdown | endShutdown | shutdown => cases isOfPeer

/-- A pool that has stopped stays so. -/
theorem phase_perform_of_stopped (stopped : pool.phase = .stopped) (action : Action) :
    (pool.perform plan action).phase = .stopped := by
  have begun : pool.beginShutdown plan = pool := by rw [beginShutdown, stopped]
  have ended : pool.endShutdown plan = pool := by rw [endShutdown, stopped]
  cases action with
  | submit | act =>
      refine (phase_perform_of_isOfPeer (fun draining => ?_) rfl).trans stopped
      cases stopped.symm.trans draining
  | beginShutdown => rwa [Pool.perform, begun]
  | endShutdown => rwa [Pool.perform, ended]
  | shutdown => rwa [Pool.perform, shutdown, begun, ended]

/-- The end of a shutdown stops a pool. -/
theorem phase_endShutdown (begun : pool.phase ≠ .running) :
    (pool.endShutdown plan).phase = .stopped := by
  unfold endShutdown
  split
  · next draining =>
    have empty : (pool.changeSessions Session.abort).serving = [] := by
      refine List.filter_eq_nil_iff.mpr fun entry member => ?_
      obtain ⟨before, _, rfl⟩ := List.mem_map.mp member
      simp [Session.isOver_abort]
    have drainingStill : (pool.changeSessions Session.abort).phase = .draining := draining
    simp [Pool.proceed, drainingStill, empty]
  · next notDraining =>
    cases phase : pool.phase with
    | running => exact absurd phase begun
    | draining => exact absurd phase notDraining
    | stopped => rfl

theorem phase_beginShutdown (plan : Plan) (pool : Pool) :
    (pool.beginShutdown plan).phase ≠ .running := by
  unfold beginShutdown
  split
  · unfold proceed
    dsimp only
    split <;> exact nofun
  · next notRunning => exact notRunning

/-- A shutdown stops a pool. -/
theorem phase_shutdown (plan : Plan) (pool : Pool) (milliseconds : Nat) :
    (pool.shutdown plan milliseconds).pool.phase = .stopped :=
  phase_endShutdown (phase_beginShutdown plan pool)

end AdmissionControl.Pool
