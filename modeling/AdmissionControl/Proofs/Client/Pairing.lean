import AdmissionControl.Proofs.Client.Interleaving

/-!
# Every reply is read by the call that asked for it

No call reads what another one was answered, and none puts its line on a connection twice. A call
that fails or is given up during its round trip takes the connection with it. One that is given up
before changes nothing for the others. A call that is not disturbed ends as it does in a world where
both ends have come to rest.
-/

namespace AdmissionControl

open Wire

namespace Client

/-- Whether a call has ended with a result that rests on a reply. -/
def Stage.hasReply : Stage → Bool
  | .ended (.returned result) => result.isFromReply
  | _ => false

/-- How a call ends depends on what is at hand. -/
theorem settle_outcome {σ κ α : Type} (transport : Transport σ κ) (link : Link κ) (world : σ)
    (bytes : List UInt8) (closed : Bool) (accept : List Char → Except Fault α) :
    (settle transport link world (.received bytes closed) accept).outcome
      = (readLine (link.unread ++ bytes) closed).judge accept := by
  simp only [settle, readLine, lineText?]
  cases firstLine (link.unread ++ bytes) closed with
  | failed error => rfl
  | unanswered => rfl
  | returned read =>
      obtain ⟨part, rest⟩ := read
      dsimp only
      cases Text.decode? part with
      | none => rfl
      | some text =>
          simp only [Option.map_some, Outcome.judge]
          cases accept (Text.trimEnd text) <;> rfl

end Client

namespace Callers

open Client

/-- Every result that rests on a reply was accepted from the answer to the line of its own call. -/
def OwnsReplies (callers : Callers) : Prop :=
  ∀ number errand result, callers.calls[number]? = some (errand, .ended (.returned result)) →
    result.isFromReply = true → Owns callers.channels number errand result

/-- No call has put more on its connections than its line, or a beginning of it. -/
def WritesOnce (callers : Callers) : Prop :=
  ∀ number errand stage, callers.calls[number]? = some (errand, stage) →
    writtenBy callers.channels number <+: errand.line

/-- How the round trip of a call goes on. -/
structure GoesOn (callers : Callers) (number : Nat) (errand : Errand) : Prop where
  /-- The call keeps the client, or leaves it connected just if it has a result from a reply. -/
  step : ∀ action, ∃ stage, (callers.step action).calls[number]? = some (errand, stage)
    ∧ (stage = .calling ∨ (callers.step action).current = none
      ∧ (callers.step action).client.isConnected = stage.hasReply)
  cancel : (callers.step (.cancel number)).calls[number]? = some (errand, .cancelled)
  fail : (callers.step .fail).calls[number]?
    = some (errand, .ended (errand.conclude (.failed .transport)))
  finish : ∀ {link bytes closed},
    callers.current = some ⟨number, errand, .reading link bytes closed⟩ →
    isAnswered link (.received bytes closed) = true →
    (callers.step .finish).calls[number]?
      = some (errand, .ended (errand.conclude ((readLine bytes closed).judge errand.accept)))
  /-- Unless an answer was cut off, there is nothing to read a result from at the end of the
  stream. -/
  atEnd : ∀ {link bytes}, callers.current = some ⟨number, errand, .reading link bytes true⟩ →
    (∀ channel ∈ callers.channels, ¬ channel.IsTorn) → bytes = []

variable {callers : Callers} {number : Nat} {errand : Errand}

section RoundTrip

/-- A round trip that ends leaves the client connected just if there is a result from a reply. -/
theorem settle_isConnected (callers : Callers) (trip : RoundTrip) (link : Link Nat)
    (arrival : Arrival) :
    let after := Client.settle (Client.channels trip.caller) link callers.channels arrival
      trip.errand.accept
    after.client.isConnected
      = (Stage.ended (trip.errand.conclude after.outcome)).hasReply := by
  intro after
  rcases settle_cases (Client.channels trip.caller) link callers.channels arrival
      trip.errand.accept with
    ⟨_, _, _, _, text, result, _, _, _, accepted, eq⟩ | ⟨noResult, client, _⟩
  · rw [show after = _ from eq, trip.errand.conclude_returned]
    exact (Errand.isFromReply_of_accept accepted).symm
  · rw [show after.client = {} from client]
    symm
    change Stage.hasReply _ = false
    cases concluded : trip.errand.conclude after.outcome with
    | failed error => rfl
    | unanswered => rfl
    | returned result =>
        refine Bool.eq_false_iff.mpr fun isFromReply => ?_
        exact noResult result (Errand.eq_returned_of_conclude concluded isFromReply)

/-- What a step does to the calls and to the one that has the client. -/
inductive Moves (callers after : Callers) (action : Action) : Prop where
  | rest (calls : after.calls = callers.calls)
  | calls (errand : Errand) (calls : after.calls = callers.calls ++ [(errand, .waiting)])
  | begins {number : Nat} {errand : Errand} (isBegin : action = .begin number)
      (free : callers.current = none)
      (waits : callers.calls[number]? = some (errand, .waiting))
      (calls : after.calls = (callers.put number errand .calling).calls)
  | givesUp {number : Nat} {errand : Errand}
      (waits : callers.calls[number]? = some (errand, .waiting))
      (calls : after.calls = (callers.put number errand .cancelled).calls)
  /-- A round trip ends. The client is then connected just if there is a result from a reply. -/
  | ends {trip : RoundTrip} {stage : Stage} (current : callers.current = some trip)
      (calls : after.calls = (callers.put trip.caller trip.errand stage).calls)
      (free : after.current = none) (connected : after.client.isConnected = stage.hasReply)

theorem Sound.moves (sound : callers.Sound) (action : Action) :
    callers.Moves (callers.step action) action := by
  have settles {trip : RoundTrip} (current : callers.current = some trip) (link : Link Nat)
      (arrival : Arrival) : callers.Moves (callers.settle trip link arrival) action :=
    .ends current rfl rfl (settle_isConnected callers trip link arrival)
  cases action with
  | call errand => exact .calls errand rfl
  | begin number =>
      change callers.Moves (callers.begin number) _
      unfold Callers.begin
      split
      · next free waits => exact .begins rfl free waits rfl
      · exact .rest rfl
  | connect =>
      change callers.Moves callers.connect _
      unfold Callers.connect
      split
      · split <;> exact .rest rfl
      · exact .rest rfl
  | write count =>
      change callers.Moves (callers.write count) _
      unfold Callers.write
      split <;> exact .rest rfl
  | read count =>
      change callers.Moves (callers.read count) _
      unfold Callers.read
      split
      · split
        · split <;> exact .rest rfl
        · exact .rest rfl
      · exact .rest rfl
  | readEnd =>
      change callers.Moves callers.readEnd _
      unfold Callers.readEnd
      split
      · split
        · split <;> exact .rest rfl
        · exact .rest rfl
      · exact .rest rfl
  | fail =>
      change callers.Moves callers.fail _
      unfold Callers.fail
      split
      · exact .rest rfl
      · next trip current =>
        split
        · refine .ends current rfl rfl ?_
          cases trip.errand <;> rfl
        · exact settles current _ _
        · exact settles current _ _
  | finish =>
      change callers.Moves callers.finish _
      unfold Callers.finish
      split
      · next current =>
        split
        · exact settles current _ _
        · exact .rest rfl
      · exact .rest rfl
  | cancel number =>
      change callers.Moves (callers.cancel number) _
      unfold Callers.cancel
      split
      · next waits => exact .givesUp waits rfl
      · next calling =>
        obtain ⟨phase, current⟩ := sound.calling calling
        refine .ends current rfl rfl ?_
        exact congrArg Option.isSome (sound.taken current).1
      · exact .rest rfl
  | disconnect =>
      change callers.Moves callers.disconnect _
      unfold Callers.disconnect
      split <;> exact .rest rfl
  | answer connection body => exact .rest rfl
  | close connection count => exact .rest rfl

/-- What becomes of a call that has the client. -/
theorem Sound.goesOn (sound : callers.Sound)
    (calling : callers.calls[number]? = some (errand, .calling)) :
    callers.GoesOn number errand := by
  obtain ⟨phase, current⟩ := sound.calling calling
  obtain ⟨_, _, stands⟩ := sound.taken current
  refine ⟨fun action => ?_, ?_, ?_, ?_, ?_⟩
  · cases sound.moves action with
    | rest calls => exact ⟨.calling, calls ▸ calling, .inl rfl⟩
    | calls other calls =>
        refine ⟨.calling, ?_, .inl rfl⟩
        rw [calls, List.getElem?_append_left (List.getElem?_eq_some_iff.mp calling).1, calling]
    | begins _ free => cases current.symm.trans free
    | @givesUp other _ waits calls =>
        have different : other ≠ number := by
          rintro rfl
          cases waits.symm.trans calling
        exact ⟨.calling, calls ▸ (getElem?_put_of_ne different _ _).trans calling, .inl rfl⟩
    | @ends trip stage isCurrent calls free connected =>
        cases current.symm.trans isCurrent
        exact ⟨stage, calls ▸ getElem?_put calling stage, .inr ⟨free, connected⟩⟩
  · change (callers.cancel number).calls[number]? = _
    rw [Callers.cancel, calling]
    exact getElem?_put calling .cancelled
  · change callers.fail.calls[number]? = _
    rw [Callers.fail, current]
    cases phase with
    | connecting => exact getElem?_put calling _
    | writing link left => exact getElem?_put calling _
    | reading link bytes closed => exact getElem?_put calling _
  · intro link bytes closed isCurrent answered
    cases current.symm.trans isCurrent
    obtain ⟨_, inUse, _⟩ := stands
    change callers.finish.calls[number]? = _
    rw [Callers.finish, current]
    dsimp only
    rw [if_pos answered]
    refine (getElem?_put calling _).trans ?_
    rw [settle_outcome, inUse.unread, List.nil_append]
  · intro link bytes isCurrent notTorn
    cases current.symm.trans isCurrent
    obtain ⟨_, inUse, ended⟩ := stands
    obtain ⟨channel, found, isSound, isFor⟩ := inUse.exists_channel sound.channels
    exact isFor.eq_nil_of_isAtEnd isSound (notTorn _ (List.mem_of_getElem? found))
      ((ended rfl).2 found) (ended rfl).1

/-- A call that nothing has disturbed ends as the client's call does in a world at rest, where the
same is at hand. -/
theorem Sound.finish_eq_call {σ κ : Type} (sound : callers.Sound)
    (calling : callers.calls[number]? = some (errand, .calling)) {link : Link Nat}
    {bytes : List UInt8} {closed : Bool}
    (current : callers.current = some ⟨number, errand, .reading link bytes closed⟩)
    (answered : isAnswered link (.received bytes closed) = true) (transport : Transport σ κ)
    (client : Client κ) (world : σ)
    (atHand : client.atHand? transport world errand.request = some (bytes, closed)) :
    (callers.step .finish).calls[number]?
      = some (errand, .ended (errand.carryOut transport client world).outcome) := by
  have reads : client.reply transport world errand.request = readLine bytes closed := by
    simp only [reply, atHand]
  rw [(sound.goesOn calling).finish current answered, errand.carryOut_eq,
    (call_spec transport client world errand.request errand.accept).1, reads]

end RoundTrip

section Waiting

/-- A call that has not begun, or was given up. -/
def Apart (callers : Callers) (number : Nat) (errand : Errand) : Prop :=
  callers.calls[number]? = some (errand, .waiting)
    ∨ callers.calls[number]? = some (errand, .cancelled)

theorem Apart.present (apart : callers.Apart number errand) : number < callers.calls.length := by
  rcases apart with waits | cancelled
  · exact (List.getElem?_eq_some_iff.mp waits).1
  · exact (List.getElem?_eq_some_iff.mp cancelled).1

theorem Apart.put (apart : callers.Apart number errand) {other : Nat} (different : other ≠ number)
    (otherErrand : Errand) (stage : Stage) :
    (callers.put other otherErrand stage).Apart number errand := by
  rw [Apart, getElem?_put_of_ne different]
  exact apart

/-- The call that has the client is another one. -/
theorem Sound.ne_of_apart (sound : callers.Sound) (apart : callers.Apart number errand)
    {trip : RoundTrip} (current : callers.current = some trip) : trip.caller ≠ number := by
  rintro rfl
  have calling := (sound.taken current).2.1
  rcases apart with waits | cancelled
  · cases calling.symm.trans waits
  · cases calling.symm.trans cancelled

/-- A call that does not begin stays apart. -/
theorem Sound.apart_step (sound : callers.Sound) (apart : callers.Apart number errand)
    {action : Action} (notBegin : action ≠ .begin number) :
    (callers.step action).Apart number errand := by
  have depends {after : Callers} (calls : after.calls = (callers.step action).calls)
      (apart : after.Apart number errand) : (callers.step action).Apart number errand := by
    rwa [Apart, calls] at apart
  cases sound.moves action with
  | rest calls => exact depends calls.symm apart
  | calls other calls =>
      rw [Apart, calls, List.getElem?_append_left apart.present]
      exact apart
  | @begins other _ isBegin _ _ calls =>
      have different : other ≠ number := by
        rintro rfl
        exact notBegin isBegin
      exact depends calls.symm (apart.put different _ _)
  | @givesUp other otherErrand waits calls =>
      refine depends calls.symm ?_
      by_cases same : other = number
      · subst same
        rcases apart with isWaiting | isCancelled
        · cases waits.symm.trans isWaiting
          exact .inr (getElem?_put waits .cancelled)
        · cases waits.symm.trans isCancelled
      · exact apart.put same _ _
  | ends current calls => exact depends calls.symm (apart.put (sound.ne_of_apart apart current) _ _)

theorem put_put (callers : Callers) (number : Nat) (errand other : Errand) (first last : Stage) :
    (callers.put number other first).put number errand last = callers.put number errand last := by
  simp only [put, List.set_set]

theorem put_comm (callers : Callers) {number other : Nat} (different : number ≠ other)
    (errand otherErrand : Errand) (stage otherStage : Stage) :
    (callers.put number errand stage).put other otherErrand otherStage
      = (callers.put other otherErrand otherStage).put number errand stage := by
  simp only [put, List.set_comm _ _ different]

/-- It makes no difference to anything else whether a call waits or was given up. -/
theorem Sound.step_put (sound : callers.Sound) (apart : callers.Apart number errand)
    {action : Action} (notBegin : action ≠ .begin number) :
    (callers.put number errand .cancelled).step action
      = (callers.step action).put number errand .cancelled := by
  have concludes {trip : RoundTrip} (current : callers.current = some trip)
      (after : After (List Channel) Nat Result) :
      (callers.put number errand .cancelled).conclude trip after
        = (callers.conclude trip after).put number errand .cancelled := by
    simp only [Callers.conclude, put, List.set_comm _ _ (sound.ne_of_apart apart current).symm]
  have looks {other : Nat} (different : number ≠ other) :
      (callers.put number errand .cancelled).calls[other]? = callers.calls[other]? :=
    getElem?_put_of_ne different errand .cancelled
  have present := apart.present
  obtain ⟨client, channels, calls, current⟩ := callers
  cases action with
  | call other => simp only [Callers.step, put, List.set_append_left _ _ present]
  | begin other =>
      have different : number ≠ other := by
        rintro rfl
        exact notBegin rfl
      change Callers.begin _ other = (Callers.begin _ other).put _ _ _
      rw [Callers.begin, looks different, Callers.begin]
      cases current with
      | some trip => rfl
      | none =>
          dsimp only [put]
          split
          · simp only [List.set_comm _ _ different]
          · rfl
  | connect =>
      rcases current with _ | ⟨caller, other, phase⟩
      · rfl
      · cases phase with
        | connecting =>
            simp only [Callers.step, Callers.connect, put]
            cases client.ensureLink (Client.channels caller) channels <;> rfl
        | _ => rfl
  | write count =>
      rcases current with _ | ⟨caller, other, phase⟩
      · rfl
      · cases phase <;> rfl
  | read count =>
      rcases current with _ | ⟨caller, other, phase⟩
      · rfl
      · cases phase with
        | reading link bytes closed =>
            simp only [Callers.step, Callers.read, put]
            cases channels[link.connection]? with
            | none => rfl
            | some channel =>
                dsimp only
                split <;> rfl
        | _ => rfl
  | readEnd =>
      rcases current with _ | ⟨caller, other, phase⟩
      · rfl
      · cases phase with
        | reading link bytes closed =>
            simp only [Callers.step, Callers.readEnd, put]
            cases channels[link.connection]? with
            | none => rfl
            | some channel =>
                dsimp only
                split <;> rfl
        | _ => rfl
  | fail =>
      rcases current with _ | ⟨caller, other, phase⟩
      · rfl
      · cases phase with
        | connecting => exact concludes rfl _
        | writing link left => exact concludes rfl _
        | reading link bytes closed => exact concludes rfl _
  | finish =>
      rcases current with _ | ⟨caller, other, phase⟩
      · rfl
      · cases phase with
        | reading link bytes closed =>
            dsimp only [Callers.step]
            unfold Callers.finish
            dsimp only [put]
            split
            · exact concludes rfl _
            · rfl
        | _ => rfl
  | cancel other =>
      change Callers.cancel _ other = (Callers.cancel _ other).put _ _ _
      by_cases same : number = other
      · subst same
        have given : (Callers.put ⟨client, channels, calls, current⟩ number errand
            .cancelled).calls[number]? = some (errand, .cancelled) :=
          List.getElem?_set_self present
        rw [Callers.cancel, given, Callers.cancel]
        rcases apart with waits | cancelled
        · rw [waits, put_put]
        · rw [cancelled]
      · rw [Callers.cancel, looks same, Callers.cancel]
        split
        · rw [put_comm _ same]
        · simp only [put, List.set_comm _ _ same]
        · rfl
  | disconnect =>
      cases current <;> rfl
  | answer connection body => rfl
  | close connection count => rfl

/-- A call that was given up before it began might as well have gone on waiting. -/
theorem Sound.run_put (sound : callers.Sound) (apart : callers.Apart number errand)
    {actions : List Action} (notBegun : .begin number ∉ actions) :
    (callers.put number errand .cancelled).run actions
      = (callers.run actions).put number errand .cancelled := by
  induction actions generalizing callers with
  | nil => rfl
  | cons action rest inductionHypothesis =>
      obtain ⟨different, later⟩ := not_or.mp (mt List.mem_cons.mpr notBegun)
      have next := sound.step_put apart (Ne.symm different)
      have apartNext := sound.apart_step apart (Ne.symm different)
      change ((callers.put number errand .cancelled).step action).run rest = _
      rw [next]
      exact inductionHypothesis (sound.step action) apartNext later

end Waiting

/-- However calls of one client and its daemon go on: a result that rests on a reply rests on the
daemon's answer to the line of that call, which is on its connections once; no call has written more
than its line; a call that has the client ends with such a result or leaves the client disconnected;
and one that is given up before it has the client changes nothing else. -/
theorem run_ownsReplies (actions : List Action) :
    let callers := run {} actions
    callers.OwnsReplies ∧ callers.WritesOnce
      ∧ (∀ number errand, callers.calls[number]? = some (errand, .calling) →
          callers.GoesOn number errand)
      ∧ (∀ number errand later, callers.calls[number]? = some (errand, .waiting) →
          .begin number ∉ later →
          (callers.step (.cancel number)).run later
            = (callers.run later).put number errand .cancelled) := by
  intro callers
  have sound : callers.Sound := sound_empty.run actions
  refine ⟨?_, ?_, ?_, ?_⟩
  · intro number errand result isEntry isFromReply
    exact (sound.account number).own isEntry isFromReply
  · intro number errand stage isEntry
    exact (sound.account number).once isEntry
  · intro number errand calling
    exact sound.goesOn calling
  · intro number errand later waits notBegun
    have given : callers.step (.cancel number) = callers.put number errand .cancelled := by
      change callers.cancel number = _
      rw [Callers.cancel, waits]
    rw [given]
    exact sound.run_put (.inl waits) notBegun

/-- A verdict that comes after its call was given up is read by no one: the next call opens a
connection of its own and reads the answer to its own line. Had that call been given up before it
began, the first one would have read the verdict all the same. -/
theorem run_ownsReplies_late :
    let asked : Errand := .admission .anonymous
    let begun : List Action := [.call asked, .call asked, .begin 0, .connect, .write 100]
    let answered : List Action :=
      [.answer 0 (Text.encode "REJECT limit=2 inflight=2 degraded=1".toList), .read 100, .finish]
    let late : List Action :=
      begun ++ .cancel 0 :: answered ++ [.begin 1, .connect, .write 100,
        .answer 1 (Text.encode "OK limit=2 inflight=1 degraded=0".toList), .read 100, .finish]
    let granted : Result := .verdict ⟨true, some 2, some 1, false, true⟩
    let refused : Result := .verdict ⟨false, some 2, some 2, true, true⟩
    ((run {} late).calls[1]? = some (asked, .ended (.returned granted))
        ∧ Owns (run {} late).channels 1 asked granted)
      ∧ ((run {} begun).calls[0]? = some (asked, .calling) ∧ (run {} begun).GoesOn 0 asked)
      ∧ ((run {} begun).calls[1]? = some (asked, .waiting)
        ∧ (((run {} begun).step (.cancel 1)).run answered).calls[0]?
          = some (asked, .ended (.returned refused))) := by
  intro asked begun answered late granted refused
  have ended : (run {} late).calls[1]? = some (asked, .ended (.returned granted)) := by
    decide +kernel
  have calling : (run {} begun).calls[0]? = some (asked, .calling) := by decide +kernel
  have waits : (run {} begun).calls[1]? = some (asked, .waiting) := by decide +kernel
  refine ⟨⟨ended, (run_ownsReplies late).1 _ _ _ ended rfl⟩,
    ⟨calling, (run_ownsReplies begun).2.2.1 _ _ calling⟩, waits, ?_⟩
  rw [(run_ownsReplies begun).2.2.2 1 asked answered waits (by decide +kernel)]
  decide +kernel

end Callers

end AdmissionControl
