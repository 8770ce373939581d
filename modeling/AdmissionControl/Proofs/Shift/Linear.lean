import AdmissionControl.Proofs.Shift.Stopping

/-!
# One service behind many connections

However workers take turns, a pool answers as one service does that is given the lines of all
connections one after another, each when it reaches the limiter. On each connection these are the
first whole lines that the peer sent. The peer receives the replies to them, whenever they are sent,
and the limiter is where the lines leave it. Later actions only extend the sequence.
-/

namespace AdmissionControl

open Wire

/-- The limiter after lines that a service is given in turn. -/
def afterLines (tuning : Limiter.Tuning) (limiter : Limiter) (lines : List (List Char)) :
    Limiter :=
  lines.foldl (fun state line => (answerLine tuning state line).state) limiter

/-- The replies on one connection when a service is given the lines of all connections in turn. -/
def repliesTo (tuning : Limiter.Tuning) (limiter : Limiter) (lines : List (Nat × List Char))
    (number : Nat) : List Char :=
  (lines.zip (answerLines tuning limiter (lines.map Prod.snd))).flatMap fun entry =>
    if entry.1.1 = number then entry.2.reply else []

/-- The lines of one connection among those of all. -/
def linesOf (lines : List (Nat × List Char)) (number : Nat) : List (List Char) :=
  (lines.filter (·.1 = number)).map Prod.snd

/-- The use of the limiter that a line asks for, if it is a request. -/
def operation? (line : List Char) : Option Limiter.Operation :=
  match Request.parse line with
  | .ok (.admission _) => some .acquire
  | .ok (.complete latency _ sampled) => some (.complete latency sampled)
  | .ok .stats => some .read
  | .error _ => none

section

variable (tuning : Limiter.Tuning) (limiter : Limiter)

theorem repliesTo_cons (entry : Nat × List Char) (rest : List (Nat × List Char)) (number : Nat) :
    repliesTo tuning limiter (entry :: rest) number
      = (if entry.1 = number then (answerLine tuning limiter entry.2).reply else [])
        ++ repliesTo tuning (answerLine tuning limiter entry.2).state rest number := rfl

/-- A line works on the limiter through the request it is, if it is one. -/
theorem state_answerLine (line : List Char) :
    (answerLine tuning limiter line).state
      = ((operation? line).map (limiter.apply tuning)).getD limiter := by
  unfold answerLine operation?
  cases Request.parse line with
  | error => rfl
  | ok request => cases request <;> rfl

/-- Lines work on the limiter through the requests among them. -/
theorem afterLines_eq_run (lines : List (List Char)) :
    afterLines tuning limiter lines = limiter.run tuning (lines.filterMap operation?) := by
  induction lines generalizing limiter with
  | nil => rfl
  | cons line rest inductionHypothesis =>
      rw [afterLines, List.foldl_cons]
      refine (inductionHypothesis _).trans ?_
      rw [state_answerLine]
      cases asks : operation? line with
      | none =>
          rw [List.filterMap_cons_none asks]
          rfl
      | some operation =>
          rw [List.filterMap_cons_some asks]
          rfl

/-- Leaving out lines of one connection that are no requests changes nothing for the others. -/
theorem repliesTo_filter (lines : List (Nat × List Char)) {number other : Nat}
    (different : other ≠ number) :
    repliesTo tuning limiter
        (lines.filter fun entry => entry.1 ≠ number || (operation? entry.2).isSome) other
      = repliesTo tuning limiter lines other := by
  induction lines generalizing limiter with
  | nil => rfl
  | cons entry rest inductionHypothesis =>
      rw [List.filter_cons]
      split
      · rw [repliesTo_cons, repliesTo_cons, inductionHypothesis]
      · next dropped =>
        obtain ⟨same, none⟩ : entry.1 = number ∧ operation? entry.2 = none := by
          simpa using dropped
        rw [repliesTo_cons, state_answerLine, none, if_neg (same ▸ Ne.symm different)]
        exact inductionHypothesis limiter

end

/-- What an answer says; a refusal answers nothing. -/
def Exchange.answer : Exchange → List Char
  | .answered _ reply => reply
  | .refused _ => []

section

variable {exchanges : List Exchange} {lines : List (List Char)}

/-- The lines that exchanges answer, when they all answer one. -/
theorem filterMap_line?_of_answers (answers : exchanges.map Exchange.line? = lines.map some) :
    exchanges.filterMap Exchange.line? = lines := by
  calc exchanges.filterMap Exchange.line?
      = (exchanges.map Exchange.line?).filterMap id := by rw [List.filterMap_map]; rfl
    _ = lines := by rw [answers, List.filterMap_map]; exact List.filterMap_some

/-- What is sent in exchanges that all answer a line is their answers. -/
theorem flatMap_reply_of_answers (answers : exchanges.map Exchange.line? = lines.map some) :
    exchanges.flatMap Exchange.reply = exchanges.flatMap Exchange.answer := by
  rw [List.flatMap_def, List.flatMap_def]
  refine congrArg List.flatten (List.map_congr_left fun exchange member => ?_)
  cases exchange with
  | answered => rfl
  | refused fault =>
      have among := answers ▸ List.mem_map_of_mem (f := Exchange.line?) member
      obtain ⟨_, _, contra⟩ := List.mem_map.mp among
      cases contra

end

section

variable {limit : Nat} {peer : Inbox}

/-- What is sent in exchanges over the first whole lines: their answers, and after them at most the
reply to a line that is refused. -/
theorem Took.sent {exchanges : List Exchange} (took : Took limit peer.bytes exchanges) :
    let lines := exchanges.filterMap Exchange.line?
    let answers := exchanges.flatMap Exchange.answer
    lines.map some <+: (Division.of peer.bytes).lines.map requestLine?
      ∧ (exchanges.flatMap Exchange.reply = answers
        ∨ exchanges.flatMap Exchange.reply = answers ++ Reply.unknown
          ∧ ∃ fault, Refusable limit peer.bytes lines.length fault) := by
  cases took with
  | answered lines answers first =>
      rw [filterMap_line?_of_answers answers]
      exact ⟨first, .inl (flatMap_reply_of_answers answers)⟩
  | refused lines answers first reason =>
      rename_i answered fault
      have linesEq : (answered ++ [Exchange.refused fault]).filterMap Exchange.line? = lines := by
        rw [List.filterMap_append, filterMap_line?_of_answers answers]
        exact List.append_nil lines
      have answersEq : (answered ++ [Exchange.refused fault]).flatMap Exchange.answer
          = answered.flatMap Exchange.reply := by
        rw [List.flatMap_append, flatMap_reply_of_answers answers]
        exact List.append_nil _
      have repliesEq : (answered ++ [Exchange.refused fault]).flatMap Exchange.reply
          = answered.flatMap Exchange.reply ++ Reply.unknown := List.flatMap_append
      rw [linesEq, answersEq, repliesEq]
      exact ⟨first, .inr ⟨rfl, fault, reason⟩⟩

end

namespace Shift

open Pool (Plan)

/-- The line of an event that was answered, and its connection. -/
def Event.line? : Event → Option (Nat × List Char)
  | .taken number (.answered line _) => some (number, line)
  | .taken _ (.refused _) | .sent _ _ | .closed _ _ => none

/-- The lines that were answered in the course of events, each with its connection. -/
def linesIn (events : List Event) : List (Nat × List Char) := events.filterMap Event.line?

section

variable (events : List Event) (number : Nat)

/-- The lines of a connection are those its exchanges answer. -/
theorem linesOf_linesIn :
    linesOf (linesIn events) number = (exchangesOn events number).filterMap Exchange.line? := by
  unfold linesOf linesIn exchangesOn
  rw [List.filter_filterMap, List.map_filterMap, List.filterMap_filterMap]
  refine List.filterMap_congr fun event _ => ?_
  cases event with
  | sent | closed => rfl
  | taken other exchange =>
      cases exchange <;> by_cases same : other = number <;>
        simp [Event.line?, Event.exchangeOn?, Exchange.line?, same]

/-- Lines are of connections of which something was told. -/
theorem exchangesOn_ne_nil {entry : Nat × List Char} (member : entry ∈ linesIn events) :
    exchangesOn events entry.1 ≠ [] := by
  have own : entry.2 ∈ linesOf (linesIn events) entry.1 :=
    List.mem_map.mpr ⟨entry, List.mem_filter.mpr ⟨member, decide_eq_true rfl⟩, rfl⟩
  rw [linesOf_linesIn] at own
  intro none
  rw [none] at own
  cases own

variable {tuning : Limiter.Tuning} {first last : Limiter}

/-- A service that is given the lines in turn ends where the limiter is. -/
theorem afterLines_linesIn (serves : Serves tuning first (exchanges events) last) :
    afterLines tuning first ((linesIn events).map Prod.snd) = last := by
  induction events generalizing first with
  | nil =>
      cases serves
      rfl
  | cons event rest inductionHypothesis =>
      cases event with
      | sent | closed => exact inductionHypothesis serves
      | taken other exchange =>
          cases serves with
          | answered line later => exact inductionHypothesis later
          | refused fault later => exact inductionHypothesis later

/-- A service that is given the lines in turn replies as the workers did. -/
theorem repliesTo_linesIn (serves : Serves tuning first (exchanges events) last) :
    repliesTo tuning first (linesIn events) number
      = (exchangesOn events number).flatMap Exchange.answer := by
  induction events generalizing first with
  | nil => rfl
  | cons event rest inductionHypothesis =>
      cases event with
      | sent | closed => exact inductionHypothesis serves
      | taken other exchange =>
          have told : (exchangesOn (.taken other exchange :: rest) number).flatMap Exchange.answer
              = (if other = number then exchange.answer else [])
                ++ (exchangesOn rest number).flatMap Exchange.answer := by
            by_cases same : other = number <;> simp [exchangesOn, Event.exchangeOn?, same]
          rw [told]
          cases serves with
          | answered line later =>
              rw [← inductionHypothesis later]
              exact repliesTo_cons tuning first (other, line) (linesIn rest) number
          | refused fault later =>
              rw [← inductionHypothesis later]
              split <;> rfl

end

section

variable {plan : Plan} {shift : Shift}

/-- Events are only ever added. -/
theorem Moves.log_isPrefix {after : Shift} (moves : shift.Moves plan after) :
    shift.log <+: after.log := by
  cases moves with
  | rests | stops | begins => exact List.prefix_rfl
  | works =>
      rw [settle, tell, List.append_assoc]
      exact List.prefix_append _ _
  | takes | concludes => exact List.prefix_append _ _

theorem log_isPrefix_perform (shift : Shift) (action : Action) :
    shift.log <+: (shift.perform plan action).log := by
  cases action with
  | submit inbox =>
      unfold perform Shift.submit
      dsimp only
      split
      · exact List.prefix_rfl
      · exact List.prefix_append _ _
  | act => exact List.prefix_rfl
  | take | read | send | lose | beginShutdown | heed | abort | conclude =>
      exact (moves_perform rfl).log_isPrefix

theorem log_isPrefix_after (shift : Shift) (actions : List Action) :
    shift.log <+: (shift.after plan actions).log := by
  induction actions generalizing shift with
  | nil => exact List.prefix_rfl
  | cons action rest inductionHypothesis =>
      exact (log_isPrefix_perform shift action).trans (inductionHypothesis _)

end

/-- A shift is linear in a sequence of lines, each with its connection: all it did is what one
service does that is given these lines in turn. -/
structure LinearIn (plan : Plan) (peers : List Inbox) (shift : Shift)
    (lines : List (Nat × List Char)) : Prop where
  /-- The limiter is where the service leaves it. -/
  limiter : shift.limiter
    = afterLines plan.service.tuning (.fresh plan.service.tuning) (lines.map Prod.snd)
  /-- Only the requests among the lines work on it, each of them once. -/
  operations : shift.limiter = Limiter.run plan.service.tuning (.fresh plan.service.tuning)
    ((lines.map Prod.snd).filterMap operation?)
  /-- All lines come from connections that were submitted. -/
  known : ∀ entry ∈ lines, entry.1 < peers.length
  /-- On each connection they are the first whole lines that the peer sent, in order. -/
  order : ∀ number (peer : Inbox), peers[number]? = some peer →
    (linesOf lines number).map some <+: (Division.of peer.bytes).lines.map requestLine?
  /-- Where a worker has read all that has come and sent its reply, they are all of those. -/
  prompt : ∀ charge ∈ shift.charges, charge.inbox.bytes = [] → charge.unsent = [] →
    plan.service.lineLimit ≠ 0 → ∃ peer : Inbox, peers[charge.number]? = some peer
      ∧ (linesOf lines charge.number).map some = (Division.of peer.bytes).lines.map requestLine?
  /-- The peer receives the service's replies to them, and possibly one more for a line that is
  refused. The end of them is missing only while a worker is still sending it, or if the peer had gone
  or the connection was cut off before it was sent. -/
  received : ∀ number (peer : Inbox), peers[number]? = some peer →
    let replies := repliesTo plan.service.tuning (.fresh plan.service.tuning) lines number
    ∃ missing,
      (received shift.log number ++ missing = replies
        ∨ received shift.log number ++ missing = replies ++ Reply.unknown
          ∧ ∃ fault,
            Refusable plan.service.lineLimit peer.bytes (linesOf lines number).length fault)
      ∧ (missing = []
        ∨ (∃ charge ∈ shift.charges, charge.number = number ∧ charge.unsent = missing)
        ∨ peer.gone = true
        ∨ .closed number (some .aborted) ∈ shift.log)
  /-- Without those lines of one connection that are no requests, nothing would be different for
  the others. -/
  independent : ∀ number other, other ≠ number →
    let requests := lines.filter fun entry => entry.1 ≠ number || (operation? entry.2).isSome
    repliesTo plan.service.tuning (.fresh plan.service.tuning) requests other
      = repliesTo plan.service.tuning (.fresh plan.service.tuning) lines other

variable {plan : Plan} {peers : List Inbox} {shift : Shift} {number : Nat} {peer : Inbox}

/-- Every connection that was submitted is with a worker, queued or closed. -/
theorem Faithful.open_or_closed (faithful : Faithful plan peers shift)
    (found : peers[number]? = some peer) :
    (∃ charge ∈ shift.charges, charge.number = number)
      ∨ (∃ entry ∈ shift.queue, entry.1 = number) ∨ number ∈ closedIn shift.log := by
  have known : number ∈ List.range shift.arrivals :=
    List.mem_range.mpr (faithful.counted ▸ (List.getElem?_eq_some_iff.mp found).1)
  rcases List.mem_append.mp (faithful.accounted.mem_iff.mpr known) with isOpen | isClosed
  · exact (List.mem_append.mp isOpen).imp List.mem_map.mp fun queued =>
      .inl (List.mem_map.mp queued)
  · exact .inr (.inr isClosed)

/-- What was told of a connection, whoever has it. -/
theorem Faithful.told (faithful : Faithful plan peers shift) (found : peers[number]? = some peer) :
    Took plan.service.lineLimit peer.bytes (exchangesOn shift.log number)
      ∧ ∃ missing, received shift.log number ++ missing
          = (exchangesOn shift.log number).flatMap Exchange.reply
        ∧ (missing = []
          ∨ (∃ charge ∈ shift.charges, charge.number = number ∧ charge.unsent = missing)
          ∨ peer.gone = true
          ∨ .closed number (some .aborted) ∈ shift.log) := by
  rcases faithful.open_or_closed found with ⟨charge, has, rfl⟩ | ⟨entry, waits, rfl⟩ | isClosed
  · obtain ⟨worker, busy⟩ := exists_worker has
    obtain ⟨goesOn, other, known, follows⟩ := faithful.busy busy
    obtain rfl := Option.some.inj (known.symm.trans found)
    exact ⟨follows.took, charge.unsent, follows.replies goesOn, .inr (.inl ⟨charge, has, rfl, rfl⟩)⟩
  · obtain ⟨_, untaken, unsent⟩ := faithful.waiting entry waits
    rw [untaken, unsent]
    exact ⟨.answered [] rfl List.nil_prefix, [], rfl, .inl rfl⟩
  · obtain ⟨other, known, took, missing, sent, why⟩ := faithful.closed number isClosed
    obtain rfl := Option.some.inj (known.symm.trans found)
    exact ⟨took, missing, sent, why.imp_right .inr⟩

/-- A shift that is faithful to its peers is linear in the lines it answered. -/
theorem Faithful.linearIn (faithful : Faithful plan peers shift) :
    LinearIn plan peers shift (linesIn shift.log) where
  limiter := (afterLines_linesIn shift.log faithful.limiter).symm
  operations := by
    rw [← afterLines_eq_run, afterLines_linesIn shift.log faithful.limiter]
  known entry member := by
    by_contra beyond
    exact exchangesOn_ne_nil shift.log member (faithful.unknown _ (Nat.not_lt.mp beyond)).1
  order number peer found := by
    rw [linesOf_linesIn]
    exact (faithful.told found).1.sent.1
  prompt charge has unread unsent positive := by
    obtain ⟨worker, busy⟩ := exists_worker has
    obtain ⟨goesOn, peer, found, follows⟩ := faithful.busy busy
    obtain ⟨seen, bytes, stands⟩ := follows.stands
    rw [unread, List.append_nil] at bytes
    rw [Session.await_of_lineLimit_ne_zero positive, ← bytes] at stands
    refine ⟨peer, found, ?_⟩
    rcases stands with current | ⟨isOver, _⟩
    · obtain ⟨lines, answers, whole⟩ := current.answered
      rw [linesOf_linesIn, whole]
      exact congrArg (List.map some) (filterMap_line?_of_answers answers)
    · have isDone : charge.isDone = true := by simp [Charge.isDone, isOver, unsent]
      cases goesOn.symm.trans isDone
  received number peer found := by
    obtain ⟨took, missing, sent, why⟩ := faithful.told found
    rw [repliesTo_linesIn shift.log number faithful.limiter, linesOf_linesIn]
    refine ⟨missing, ?_, why⟩
    rw [sent]
    exact took.sent.2
  independent number other different := repliesTo_filter _ _ _ different

/-- A peer that leaves after its second line was taken: both lines are in the sequence, and only the
reply to the first one has arrived. -/
example :
    let plan : Plan := ⟨⟨⟨4, 300, 1, Limiter.usualDecrease⟩, 1024⟩, 1⟩
    let sent := Text.encode "ADMIT\nADMIT\n".toList
    let shift := run plan (.submit { bytes := sent } :: .take 0 :: List.replicate 6 (.read 0)
      ++ List.replicate 33 (.send 0) ++ List.replicate 6 (.read 0) ++ [.act 0 .leave, .lose 0])
    linesIn shift.log = [(0, "ADMIT".toList), (0, "ADMIT".toList)]
      ∧ shift.limiter = ⟨4, 2, false⟩
      ∧ received shift.log 0 = "OK limit=4 inflight=1 degraded=0\n".toList := by
  decide +kernel

end Shift

end AdmissionControl
