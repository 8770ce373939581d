import AdmissionControl.Proofs.Pool.Phases
import AdmissionControl.Proofs.Pool.Waiting

/-!
# Every connection is open or closed

Whatever happens in a pool, no connection gets lost: those that it has open and those that it has
closed are all that there are. A pool that stops has none open, so it has closed them all.
-/

namespace AdmissionControl.Pool

variable {plan : Plan} {pool : Pool} {all : List Nat} {number : Nat}

/-- The connections that were closed. -/
def closed (pool : Pool) : List Nat := pool.log.filterMap Crew.closed?

/-- Every connection is open or closed, and not both. -/
def Accounts (pool : Pool) (all : List Nat) : Prop := (pool.numbers ++ pool.closed).Perm all

section Turns

/-- A turn closes its own connection, if its session is over. -/
theorem closed_settle (pool : Pool) (number : Nat) (turn : Turn) :
    (pool.settle number turn).closed
      = pool.closed ++ if turn.session.isOver then [number] else [] := by
  have silent : (turn.exchanges.map
      (Event.exchanged number · turn.session.reachable)).filterMap Crew.closed? = [] := by
    refine List.filterMap_eq_nil_iff.mpr fun event member => ?_
    obtain ⟨_, _, rfl⟩ := List.mem_map.mp member
    rfl
  unfold closed settle
  dsimp only
  split
  · rw [List.filterMap_append, List.filterMap_append, silent, List.append_nil]
    rfl
  · rw [List.filterMap_append, silent]

/-- A turn leaves its own connection open, unless its session is over. -/
theorem numbers_settle_perm (pool : Pool) (number : Nat) (turn : Turn) :
    (pool.settle number turn).numbers.Perm
      ((if turn.session.isOver then [] else [number]) ++ pool.numbers) := by
  unfold numbers settle
  dsimp only
  split
  · exact .refl _
  · rw [List.map_append, List.append_assoc]
    exact List.perm_middle

theorem accounts_settle (accounts : (number :: (pool.numbers ++ pool.closed)).Perm all)
    (turn : Turn) : (pool.settle number turn).Accounts all := by
  refine .trans ?_ accounts
  refine ((pool.numbers_settle_perm number turn).append_right _).trans ?_
  rw [closed_settle]
  split
  · rw [← List.append_assoc]
    exact List.perm_append_singleton _ _
  · rw [List.append_nil]
    exact .refl _

/-- Handing waiting connections to free workers. -/
theorem Accounts.takeUpFrom {waiting : List (Nat × Inbox)}
    (accounts : Accounts { pool with queue := waiting } all) :
    (pool.takeUpFrom plan waiting).Accounts all := by
  induction waiting generalizing pool with
  | nil => exact accounts
  | cons entry rest inductionHypothesis =>
      obtain ⟨number, inbox⟩ := entry
      unfold Pool.takeUpFrom
      split
      · refine inductionHypothesis ?_
        rw [settle_withQueue]
        have taken : (number :: (pool.serving.map Prod.fst ++ rest.map Prod.fst)).Perm
            (pool.serving.map Prod.fst ++ number :: rest.map Prod.fst) := List.perm_middle.symm
        refine accounts_settle (.trans ?_ accounts) _
        exact taken.append_right pool.closed
      · exact accounts

theorem closed_turnAway (pool : Pool) (connections : List (Nat × Inbox)) :
    (pool.turnAway connections).closed = pool.closed ++ connections.map Prod.fst := by
  refine List.filterMap_append.trans (congrArg (pool.closed ++ ·) ?_)
  rw [List.filterMap_map]
  exact congrFun List.filterMap_eq_map connections

/-- Connections that are turned away are closed. -/
theorem Accounts.turnAway (accounts : pool.Accounts all) (connections : List (Nat × Inbox)) :
    (pool.turnAway connections).Accounts (all ++ connections.map Prod.fst) := by
  unfold Accounts
  rw [closed_turnAway, ← List.append_assoc]
  exact accounts.append_right _

/-- What follows by itself. -/
theorem Accounts.proceed (accounts : pool.Accounts all) : (pool.proceed plan).Accounts all := by
  unfold Pool.proceed
  split
  · exact accounts.takeUpFrom
  · split
    · refine .trans ?_ accounts
      change ((pool.serving.map Prod.fst ++ []) ++ (pool.turnAway pool.queue).closed).Perm
        ((pool.serving.map Prod.fst ++ pool.queue.map Prod.fst) ++ pool.closed)
      rw [closed_turnAway, List.append_nil, List.append_assoc]
      exact List.perm_append_comm.append_left _
    · exact accounts
  · exact accounts

/-- A turn on a connection that a worker has. -/
theorem Accounts.turn (accounts : pool.Accounts all) (distinct : all.Nodup) {session : Session}
    (found : pool.serving.lookup number = some session) (turn : Turn) :
    ((pool.without number).settle number turn).Accounts all := by
  refine accounts_settle (.trans ?_ accounts) turn
  have once : (pool.serving.map Prod.fst).Nodup :=
    (List.nodup_append.mp (List.nodup_append.mp (accounts.nodup_iff.mpr distinct)).1).1
  have others : (pool.without number).serving.map Prod.fst
      = (pool.serving.map Prod.fst).erase number := by
    rw [once.erase_eq_filter, List.filter_map]
    refine congrArg (List.map Prod.fst) (List.filter_congr fun entry _ => ?_)
    by_cases same : entry.1 = number <;> simp [same]
  have held : number ∈ pool.serving.map Prod.fst := List.mem_map.mpr ⟨_, mem_of_lookup found, rfl⟩
  have taken := List.perm_cons_erase held
  rw [← others] at taken
  exact (taken.symm.append_right (pool.queue.map Prod.fst)).append_right pool.closed

/-- What a peer does on any connection. -/
theorem Accounts.act (accounts : pool.Accounts all) (distinct : all.Nodup) (number : Nat)
    (action : PeerAction) : (pool.act plan number action).Accounts all := by
  unfold Pool.act
  cases found : pool.serving.lookup number with
  | none =>
      have sameNumbers := map_fst_onInbox number action pool.queue
      unfold Accounts numbers
      dsimp only
      rw [sameNumbers]
      exact accounts
  | some session => exact (accounts.turn distinct found _).proceed

end Turns

section Submissions

/-- Peers leave a pool running. -/
theorem running_of_isOfPeer (running : pool.phase = .running) {action : Action}
    (isOfPeer : action.isOfPeer = true) : (pool.perform plan action).phase = .running :=
  (phase_perform_of_isOfPeer (by simp [running]) isOfPeer).trans running

theorem running_submit (running : pool.phase = .running) (inbox : Inbox) :
    (pool.submit plan inbox).pool.phase = .running := by
  have performed : (pool.perform plan (.submit inbox)).phase = .running :=
    running_of_isOfPeer running rfl
  exact performed

theorem running_act (running : pool.phase = .running) (number : Nat) (action : PeerAction) :
    (pool.act plan number action).phase = .running := by
  have performed : (pool.perform plan (.act number action)).phase = .running :=
    running_of_isOfPeer running rfl
  exact performed

theorem arrivals_act (running : pool.phase = .running) (number : Nat) (action : PeerAction) :
    (pool.act plan number action).arrivals = pool.arrivals := by
  cases found : pool.serving.lookup number with
  | none =>
      unfold Pool.act
      rw [found]
  | some session => exact (exists_takes_act running found action).1

/-- A submitted connection is open, or was closed unread. -/
theorem Accounts.submit (accounts : pool.Accounts all) (inbox : Inbox) :
    (pool.submit plan inbox).pool.Accounts (all ++ [pool.arrivals]) := by
  have counted : Accounts { pool with arrivals := pool.arrivals + 1 } all := accounts
  have turnedAway := counted.turnAway [(pool.arrivals, inbox)]
  unfold Pool.submit
  dsimp only
  split
  · exact turnedAway
  · split
    · refine Accounts.proceed (.trans ?_ (accounts.append_right [pool.arrivals]))
      unfold numbers
      dsimp only
      rw [List.map_append, ← List.append_assoc, List.append_assoc, List.append_assoc _ pool.closed]
      exact List.perm_append_comm.append_left _
    · exact turnedAway

end Submissions

section Stopping

variable (change : Session → Session)

/-- When all sessions have changed, those that are over are closed. -/
theorem Accounts.changeSessions (accounts : pool.Accounts all) :
    (pool.changeSessions change).Accounts all := by
  let changed := pool.serving.map fun entry => (entry.1, change entry.2)
  have numbers : changed.map Prod.fst = pool.serving.map Prod.fst := by
    rw [List.map_map]
    rfl
  have parts : ((changed.filter fun entry => !entry.2.isOver)
      ++ changed.filter fun entry => entry.2.isOver).Perm changed :=
    List.perm_append_comm.trans (List.filter_append_perm _ _)
  have byNumber := parts.map Prod.fst
  rw [List.map_append, numbers] at byNumber
  refine .trans ?_ accounts
  have closed : (pool.changeSessions change).closed
      = pool.closed ++ (changed.filter fun entry => entry.2.isOver).map Prod.fst := by
    refine List.filterMap_append.trans (congrArg (pool.closed ++ ·) ?_)
    rw [List.filterMap_map]
    exact congrFun List.filterMap_eq_map _
  refine .trans (List.perm_iff_count.mpr fun number => ?_)
    ((byNumber.append_right _).append_right _)
  rw [closed]
  simp only [Pool.numbers, Pool.changeSessions, List.count_append, changed]
  omega

/-- A pool on its way to its end: when it stops, it has no connection open. -/
structure WindsUp (all : List Nat) (pool : Pool) : Prop where
  begun : pool.phase ≠ .running
  emptied : pool.phase = .stopped → pool.numbers = []
  accounts : pool.Accounts all

/-- When nothing is waited for any more, what is left is closed. -/
theorem windsUp_proceed (draining : pool.phase = .draining) (accounts : pool.Accounts all) :
    (pool.proceed plan).WindsUp all := by
  refine ⟨?_, ?_, accounts.proceed⟩ <;> unfold Pool.proceed <;> rw [draining] <;> dsimp only
  · split
    · exact nofun
    · rw [draining]
      exact nofun
  · split
    · next empty =>
      intro _
      simp [numbers, Pool.turnAway, List.isEmpty_iff.mp empty]
    · intro stopped
      cases draining.symm.trans stopped

/-- A shutdown begins. -/
theorem Accounts.beginShutdown (accounts : pool.Accounts all) (running : pool.phase = .running) :
    (pool.beginShutdown plan).WindsUp all := by
  have changed : Accounts { pool.changeSessions Session.stop with phase := .draining } all :=
    accounts.changeSessions Session.stop
  unfold Pool.beginShutdown
  rw [running]
  exact windsUp_proceed rfl changed

/-- Peers still act on connections that are waited for. -/
theorem WindsUp.act (windsUp : pool.WindsUp all) (distinct : all.Nodup) (number : Nat)
    (action : PeerAction) : (pool.act plan number action).WindsUp all := by
  cases found : pool.serving.lookup number with
  | none =>
      refine ⟨?_, ?_, windsUp.accounts.act distinct number action⟩ <;> unfold Pool.act <;>
        rw [found]
      · exact windsUp.begun
      · intro stopped
        have empty := windsUp.emptied stopped
        unfold numbers at empty ⊢
        dsimp only
        rwa [map_fst_onInbox]
  | some session =>
      have draining : pool.phase = .draining := by
        cases phase : pool.phase with
        | running => exact absurd phase windsUp.begun
        | draining => rfl
        | stopped =>
            have isOpen : number ∈ pool.numbers :=
              List.mem_append_left _ (List.mem_map.mpr ⟨_, mem_of_lookup found, rfl⟩)
            rw [windsUp.emptied phase] at isOpen
            cases isOpen
      unfold Pool.act
      rw [found]
      exact windsUp_proceed ((phase_settle ..).trans draining)
        (windsUp.accounts.turn distinct found _)

/-- A shutdown ends. -/
theorem WindsUp.endShutdown (windsUp : pool.WindsUp all) :
    (pool.endShutdown plan).numbers = [] ∧ (pool.endShutdown plan).Accounts all := by
  have stopped : (pool.endShutdown plan).phase = .stopped := phase_endShutdown windsUp.begun
  revert stopped
  unfold Pool.endShutdown
  split
  · next draining =>
    have stillDraining : (pool.changeSessions Session.abort).phase = .draining := draining
    have ends : ((pool.changeSessions Session.abort).proceed plan).WindsUp all :=
      windsUp_proceed stillDraining (windsUp.accounts.changeSessions Session.abort)
    exact fun stopped => ⟨ends.emptied stopped, ends.accounts⟩
  · exact fun stopped => ⟨windsUp.emptied stopped, windsUp.accounts⟩

end Stopping

end AdmissionControl.Pool
