import AdmissionControl.Proofs.Client.Channels
import AdmissionControl.Proofs.Client.Replies
import AdmissionControl.Proofs.Wire.RequestCodec

/-!
# Round trips

A call that has the client writes its line after whole lines alone, and what it reads is due for
that line or not due at all. So a line that it reads is the answer to its own, and nothing of it is
left on the connection for a later call. Every other way to end a round trip drops the connection.
-/

namespace AdmissionControl

open Wire

namespace Client

/-- The bytes of the request line of a call. -/
def Errand.line (errand : Errand) : List UInt8 := Text.encode errand.request.encode

/-- A request line has its only line feed at its end. -/
theorem Errand.exists_line (errand : Errand) :
    ∃ body, errand.line = body ++ [Turn.lineFeed] ∧ Turn.lineFeed ∉ body := by
  obtain ⟨body, eq, noFeed, _⟩ := errand.request.isLine_encode.exists_bytes
  exact ⟨body, eq, noFeed⟩

section Results

/-- What a call accepts rests on a reply. -/
theorem Errand.isFromReply_of_accept {errand : Errand} {text : List Char} {result : Result}
    (accepted : errand.accept text = .ok result) : result.isFromReply = true := by
  have verdict (visitor : Visitor)
      (accepted : (Errand.tryAdmission visitor).accept text = .ok result) :
      result.isFromReply = true := by
    simp only [accept, readVerdict] at accepted
    cases parsed : AdmitReply.parse text with
    | error fault => simp [parsed, Except.map] at accepted
    | ok reply =>
        simp only [parsed, Except.map, Except.ok.injEq] at accepted
        rw [← accepted]
        rfl
  cases errand with
  | tryAdmission visitor => exact verdict visitor accepted
  | admission visitor => exact verdict visitor accepted
  | complete completion =>
      cases accepted
      rfl
  | stats =>
      simp only [accept] at accepted
      cases parsed : Reply.readState text with
      | error fault => simp [parsed, Except.map] at accepted
      | ok state =>
          simp only [parsed, Except.map, Except.ok.injEq] at accepted
          rw [← accepted]
          rfl

theorem Errand.conclude_returned (errand : Errand) (result : Result) :
    errand.conclude (.returned result) = .returned result := by
  cases errand <;> rfl

/-- What stands in for a result does not rest on a reply. -/
theorem Errand.eq_returned_of_conclude {errand : Errand} {outcome : Outcome Result}
    {result : Result} (concluded : errand.conclude outcome = .returned result)
    (isFromReply : result.isFromReply = true) : outcome = .returned result := by
  cases outcome with
  | returned found => rw [← concluded, errand.conclude_returned]
  | unanswered => cases errand <;> cases concluded
  | failed error =>
      cases errand with
      | tryAdmission visitor => cases concluded
      | stats => cases concluded
      | admission visitor =>
          cases concluded
          cases isFromReply
      | complete completion =>
          cases concluded
          cases isFromReply

end Results

section Calls

variable {σ κ α β : Type} (transport : Transport σ κ) (client : Client κ) (world : σ)

/-- What is made of what a call accepts makes no difference to its course. -/
theorem call_map (request : Request) (make : α → β) (accept : List Char → Except Fault α) :
    client.call transport world request (fun line => (accept line).map make)
      = (client.call transport world request accept).map make := by
  simp only [call]
  cases client.ensureLink transport world with
  | none => rfl
  | some entry =>
      obtain ⟨link, opened⟩ := entry
      simp only [exchange, settle]
      cases (transport.send opened link.connection (Text.encode request.encode)).1 with
      | refused => rfl
      | received bytes closed =>
          dsimp only
          cases firstLine (link.unread ++ bytes) closed with
          | failed error => rfl
          | unanswered => rfl
          | returned read =>
              dsimp only
              cases Text.decode? read.1 with
              | none => rfl
              | some text =>
                  dsimp only
                  cases accept (Text.trimEnd text) <;> rfl

/-- Every call sends the request it is for, accepts what it can read, and makes of the outcome what
its caller gets. -/
theorem Errand.carryOut_eq (errand : Errand) :
    errand.carryOut transport client world
      = { client.call transport world errand.request errand.accept with
          outcome := errand.conclude
            (client.call transport world errand.request errand.accept).outcome } := by
  have recovered {α : Type} (fallback : α) (make : α → Result) (after : After σ κ α) :
      { after.map make with outcome := (after.map make).outcome.recover (make fallback) }
        = After.map make { after with outcome := after.outcome.recover fallback } := by
    obtain ⟨outcome, left, later⟩ := after
    cases outcome <;> rfl
  cases errand with
  | tryAdmission visitor => exact (call_map transport client world _ Result.verdict readVerdict).symm
  | stats => exact (call_map transport client world _ Result.state Reply.readState).symm
  | admission visitor =>
      have called := call_map transport client world (.admission visitor) Result.verdict readVerdict
      simp only [request, accept, conclude, called, recovered]
      rfl
  | complete completion =>
      have called := call_map transport client world completion.request Result.receipt readReceipt
      simp only [request, accept, conclude, called, recovered]
      rfl

end Calls

section Reading

variable {bytes part rest : List UInt8} {closed : Bool}

/-- The line that is read ends with the first line feed, or else with the stream. -/
theorem firstLine_cases (first : firstLine bytes closed = .returned (part, rest)) :
    (∃ front, Turn.lineFeed ∉ front ∧ part = front ++ [Turn.lineFeed]
        ∧ bytes = front ++ Turn.lineFeed :: rest)
      ∨ (closed = true ∧ Turn.lineFeed ∉ bytes ∧ bytes ≠ [] ∧ part = bytes ∧ rest = []) := by
  unfold firstLine at first
  cases cut : Text.cut? 10 bytes with
  | some sides =>
      obtain ⟨front, after⟩ := sides
      rw [cut] at first
      cases first
      obtain ⟨eq, noFeed⟩ := Text.eq_append_of_cut? cut
      exact .inl ⟨front, noFeed, rfl, eq⟩
  | none =>
      rw [cut] at first
      have noFeed : Turn.lineFeed ∉ bytes := Text.cut?_eq_none_iff.mp cut
      cases closed with
      | false => cases first
      | true =>
          by_cases empty : bytes = []
          · simp [empty] at first
          · simp [empty] at first
            obtain ⟨rfl, rfl⟩ := first
            exact .inr ⟨rfl, noFeed, empty, rfl, rfl⟩

/-- A call returns what it accepts of the line it has read, and otherwise drops the connection. -/
theorem settle_cases {σ κ α : Type} (transport : Transport σ κ) (link : Link κ) (world : σ)
    (arrival : Arrival) (accept : List Char → Except Fault α) :
    let after := settle transport link world arrival accept
    (∃ bytes closed part rest text result, arrival = .received bytes closed
        ∧ firstLine (link.unread ++ bytes) closed = .returned (part, rest)
        ∧ lineText? part = some text ∧ accept text = .ok result
        ∧ after = ⟨.returned result, ⟨some { link with unread := rest }⟩, world⟩)
      ∨ ((∀ result, after.outcome ≠ .returned result) ∧ after.client = {}
        ∧ after.world = transport.hangUp world link.connection) := by
  intro after
  simp only [after, settle]
  cases arrival with
  | refused => exact .inr ⟨by simp, rfl, rfl⟩
  | received bytes closed =>
      dsimp only
      cases first : firstLine (link.unread ++ bytes) closed with
      | failed error => exact .inr ⟨by simp, rfl, rfl⟩
      | unanswered => exact .inr ⟨by simp, rfl, rfl⟩
      | returned read =>
          obtain ⟨part, rest⟩ := read
          dsimp only
          cases decoded : Text.decode? part with
          | none => exact .inr ⟨by simp, rfl, rfl⟩
          | some text =>
              dsimp only
              cases judged : accept (Text.trimEnd text) with
              | error fault => exact .inr ⟨by simp, rfl, rfl⟩
              | ok result =>
                  have isText : lineText? part = some (Text.trimEnd text) := by
                    rw [lineText?, decoded, Option.map_some]
                  exact .inl ⟨bytes, closed, part, rest, _, result, rfl, first, isText, judged, rfl⟩

end Reading

namespace Channel

/-- An answer that was given to a line which a call wrote. As many lines come before the one as
answers before the other. -/
def Answers (channel : Channel) (caller : Nat) (line answer : List UInt8) : Prop :=
  ∃ before after : List (Nat × UInt8),
    channel.written = before ++ line.map (Prod.mk caller) ++ after
      ∧ (Division.of (before.map Prod.snd)).rest = []
      ∧ channel.answers[(Division.of (before.map Prod.snd)).lines.length]? = some answer

/-- A result was accepted from the answer to the line of the call: from all of it or, where the
connection was closed within it, from what came of it. -/
def Yields (channel : Channel) (caller : Nat) (errand : Errand) (result : Result) : Prop :=
  ∃ answer part text, channel.Answers caller errand.line answer
    ∧ part <+: answer ∧ (part = answer ∨ channel.IsTorn)
    ∧ lineText? part = some text ∧ errand.accept text = .ok result

/-- A call has written these bytes after whole lines alone, and has read these, which are due for
what comes after those lines. -/
def IsFor (channel : Channel) (caller : Nat) (mine read : List UInt8) : Prop :=
  ∃ before : List (Nat × UInt8),
    channel.written = before ++ mine.map (Prod.mk caller)
      ∧ (Division.of (before.map Prod.snd)).rest = []
      ∧ channel.Owes (Division.of (before.map Prod.snd)).lines.length read

variable {channel after : Channel} {caller : Nat} {mine read : List UInt8}

theorem Answers.mono {line answer : List UInt8} (answers : channel.Answers caller line answer)
    (grows : channel.Grows after) : after.Answers caller line answer := by
  obtain ⟨before, later, written, even, answered⟩ := answers
  obtain ⟨more, moreEq⟩ := grows.written
  obtain ⟨answersMore, answersEq⟩ := grows.answers
  refine ⟨before, later ++ more, ?_, even, ?_⟩
  · rw [← moreEq, written, List.append_assoc]
  · rw [← answersEq, List.getElem?_append_left (List.getElem?_eq_some_iff.mp answered).1, answered]

theorem Yields.mono {errand : Errand} {result : Result}
    (yields : channel.Yields caller errand result) (grows : channel.Grows after) :
    after.Yields caller errand result := by
  obtain ⟨answer, part, text, answers, isPrefix, whole, isText, accepted⟩ := yields
  exact ⟨answer, part, text, answers.mono grows, isPrefix, whole.imp_right grows.torn, isText,
    accepted⟩

theorem isFor_empty (caller : Nat) : ({} : Channel).IsFor caller [] [] :=
  ⟨[], rfl, rfl, owes_empty⟩

/-- A connection on which nothing was written for a call is there for every call. -/
theorem IsFor.relabel (isFor : channel.IsFor caller [] read) (other : Nat) :
    channel.IsFor other [] read := isFor

theorem IsFor.write (isFor : channel.IsFor caller mine read) (bytes : List UInt8) :
    (channel.write caller bytes).IsFor caller (mine ++ bytes) read := by
  obtain ⟨before, written, even, owes⟩ := isFor
  refine ⟨before, ?_, even, owes.write caller bytes⟩
  rw [List.map_append, ← List.append_assoc, ← written]
  rfl

theorem IsFor.take (isFor : channel.IsFor caller mine read) (count : Nat) :
    (channel.take count).IsFor caller mine (read ++ channel.incoming.take count) := by
  obtain ⟨before, written, even, owes⟩ := isFor
  exact ⟨before, written, even, owes.take count⟩

theorem IsFor.respond (isFor : channel.IsFor caller mine read)
    (responds : channel.Responds after) : after.IsFor caller mine read := by
  obtain ⟨before, written, even, owes⟩ := isFor
  exact ⟨before, responds.written.trans written, even, responds.owes owes⟩

/-- The line that a call reads is the answer to its own, and afterwards nothing is due on the
connection. -/
theorem IsFor.finish {errand : Errand} {closed : Bool} {part rest : List UInt8}
    (isFor : channel.IsFor caller errand.line read) (sound : channel.Sound)
    (ended : closed = true → channel.isAtEnd = true)
    (first : firstLine read closed = .returned (part, rest)) :
    rest = [] ∧ channel.IsFor caller [] []
      ∧ ∃ answer, channel.Answers caller errand.line answer ∧ part <+: answer
        ∧ (part = answer ∨ channel.IsTorn) := by
  obtain ⟨before, written, even, owes⟩ := isFor
  obtain ⟨body, line, noFeed⟩ := errand.exists_line
  have nextEven : Division.of ((before ++ errand.line.map (Prod.mk caller)).map Prod.snd)
      = { lines := (Division.of (before.map Prod.snd)).lines ++ [errand.line] } := by
    have bytes : (before ++ errand.line.map (Prod.mk caller)).map Prod.snd
        = before.map Prod.snd ++ errand.line := by
      simp [Function.comp_def]
    rw [bytes, line, Division.of_append_line even noFeed]
  have few : channel.answers.length ≤ (Division.of (before.map Prod.snd)).lines.length + 1 := by
    have counted := sound.answered
    rw [Channel.bytes, written, ← Division.length_lines, nextEven, List.length_append] at counted
    exact counted
  have nonempty : read ≠ [] := by
    rintro rfl
    rcases firstLine_cases first with ⟨front, _, _, eq⟩ | ⟨_, _, absurdity, _⟩
    · simp at eq
    · exact absurdity rfl
  obtain ⟨answer, answered, all, isPrefix, whole⟩ := owes.exists_answer few nonempty
  have isAnswer : IsAnswer answer := sound.lines answer (List.mem_of_getElem? answered)
  have answers : channel.Answers caller errand.line answer :=
    ⟨before, [], by rw [written, List.append_nil], even, answered⟩
  have settled (nothing : channel.incoming = []) : channel.IsFor caller [] [] := by
    refine ⟨before ++ errand.line.map (Prod.mk caller), ?_, by rw [nextEven], ?_⟩
    · rw [written, List.map_nil, List.append_nil]
    · refine .of_incoming nothing fun _ => ?_
      rw [nextEven, List.length_append, ← all]
      rfl
  rcases firstLine_cases first with
    ⟨front, frontNoFeed, rfl, eq⟩ | ⟨isClosed, readNoFeed, _, rfl, rfl⟩
  · -- A line feed among what was read ends the one answer that is due.
    rw [eq, List.append_assoc, List.cons_append] at isPrefix
    obtain ⟨same, nothing⟩ := isAnswer.eq_of_isPrefix frontNoFeed isPrefix
    obtain ⟨restNil, incomingNil⟩ := List.append_eq_nil_iff.mp nothing
    exact ⟨restNil, settled incomingNil, answer, answers, same ▸ List.prefix_rfl, .inl same.symm⟩
  · -- Without one, the stream has ended within the answer.
    have nothing := incoming_of_isAtEnd (ended isClosed)
    have torn : channel.IsTorn := by
      by_contra notTorn
      obtain ⟨answerBody, isLine, _⟩ := isAnswer
      have readAll := whole notTorn
      rw [nothing, List.append_nil, isLine] at readAll
      exact readNoFeed (readAll ▸ List.mem_append_right _ (List.mem_singleton_self _))
    exact ⟨rfl, settled nothing, answer, answers,
      (List.prefix_append _ _).trans isPrefix, .inr torn⟩

/-- Where no connection was closed within the answers, only the end of the stream is left once the
daemon has closed it. -/
theorem IsFor.eq_nil_of_isAtEnd {errand : Errand} (isFor : channel.IsFor caller errand.line read)
    (sound : channel.Sound) (notTorn : ¬ channel.IsTorn) (ended : channel.isAtEnd = true)
    (noFeed : Turn.lineFeed ∉ read) : read = [] := by
  by_contra nonempty
  have first : firstLine read true = .returned (read, []) := firstLine_of_cut noFeed nonempty
  obtain ⟨_, _, answer, answers, _, whole⟩ := isFor.finish sound (fun _ => ended) first
  obtain ⟨_, _, _, _, answered⟩ := answers
  obtain ⟨body, isLine, _⟩ := sound.lines answer (List.mem_of_getElem? answered)
  rcases whole with same | torn
  · rw [same, isLine] at noFeed
    exact noFeed (List.mem_append_right _ (List.mem_singleton_self _))
  · exact notTorn torn

end Channel

end Client

end AdmissionControl
