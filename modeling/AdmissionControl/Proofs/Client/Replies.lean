import AdmissionControl.Client.Script
import AdmissionControl.Proofs.Text.Words
import AdmissionControl.Session.Basic

/-!
# Replies as a client takes them

A call reads one line of what it has at hand once its request is sent: the bytes left unread before
and those that came back. How the call ends depends on that line alone. A completion takes every
line for its acknowledgement, and where the stream ends within a line, the beginning counts as the
whole. So a report can pass for delivered although nothing was done about it, and a verdict can be
read from half a reply; both are described exactly.
-/

namespace AdmissionControl

open Wire

namespace Client

variable {σ κ α : Type}

/-- What a call reads its reply from, once its request is sent: the bytes left unread before and
those that came back, and whether the stream ended after them. There is nothing if no connection
took the request. -/
def atHand? (transport : Transport σ κ) (client : Client κ) (world : σ) (request : Request) :
    Option (List UInt8 × Bool) :=
  match client.ensureLink transport world with
  | none => none
  | some (link, opened) =>
      match (transport.send opened link.connection (Text.encode request.encode)).1 with
      | .refused => none
      | .received bytes closed => some (link.unread ++ bytes, closed)

/-- The text of a reply line, without the blanks at its end. -/
def lineText? (line : List UInt8) : Option (List Char) := (Text.decode? line).map Text.trimEnd

/-- The line that a call finds in the bytes at hand. -/
def readLine (bytes : List UInt8) (closed : Bool) : Outcome (List Char) :=
  match firstLine bytes closed with
  | .failed error => .failed error
  | .unanswered => .unanswered
  | .returned (line, _) =>
      match lineText? line with
      | none => .failed .transport
      | some text => .returned text

/-- The reply line that a call reads. -/
def reply (transport : Transport σ κ) (client : Client κ) (world : σ) (request : Request) :
    Outcome (List Char) :=
  match client.atHand? transport world request with
  | none => .failed .transport
  | some (bytes, closed) => readLine bytes closed

/-- The outcome of a call that accepts the line it has read or not. -/
def Outcome.judge (accept : List Char → Except Fault α) : Outcome (List Char) → Outcome α
  | .failed error => .failed error
  | .unanswered => .unanswered
  | .returned line =>
      match accept line with
      | .error fault => .failed (.unacceptable fault)
      | .ok result => .returned result

/-- What a line is read from: bytes up to the first line feed, or all of them where the stream ends
before there is one. -/
inductive ReadsFrom (text : List Char) : List UInt8 → Bool → Prop where
  | line {line rest : List UInt8} {closed : Bool} (noFeed : Turn.lineFeed ∉ line)
      (isText : lineText? (line ++ [Turn.lineFeed]) = some text) :
      ReadsFrom text (line ++ Turn.lineFeed :: rest) closed
  | cut {bytes : List UInt8} (noFeed : Turn.lineFeed ∉ bytes) (nonempty : bytes ≠ [])
      (isText : lineText? bytes = some text) : ReadsFrom text bytes true

/-- Whether a call accepts what was cut off as if it were a line. -/
def Passes (accept : List Char → Except Fault α) (cut : List UInt8) : Prop :=
  cut ≠ [] ∧ ∃ (text : List Char) (result : α), lineText? cut = some text ∧ accept text = .ok result

section Reading

variable {bytes : List UInt8} {closed : Bool}

theorem firstLine_of_cut (noFeed : Turn.lineFeed ∉ bytes) (nonempty : bytes ≠ []) :
    firstLine bytes true = .returned (bytes, []) := by
  have uncut : Text.cut? 10 bytes = none := Text.cut?_eq_none_iff.mpr noFeed
  simp [firstLine, uncut, nonempty]

/-- A call reads the bytes up to the first line feed, or else those before the end of the stream. -/
theorem readLine_eq_returned_iff {text : List Char} :
    readLine bytes closed = .returned text ↔ ReadsFrom text bytes closed := by
  constructor
  · intro read
    unfold readLine at read
    cases cut : Text.cut? 10 bytes with
    | some sides =>
        obtain ⟨line, rest⟩ := sides
        obtain ⟨eq, noFeed⟩ := Text.eq_append_of_cut? cut
        have first : firstLine bytes closed = .returned (line ++ [10], rest) := by
          rw [firstLine, cut]
        rw [first] at read
        cases isText : lineText? (line ++ [10]) with
        | none => simp [isText] at read
        | some found =>
            simp only [isText, Outcome.returned.injEq] at read
            exact eq ▸ .line noFeed (read ▸ isText)
    | none =>
        have noFeed : Turn.lineFeed ∉ bytes := Text.cut?_eq_none_iff.mp cut
        cases closed with
        | false => simp [firstLine, cut] at read
        | true =>
            by_cases nonempty : bytes = []
            · simp [firstLine, nonempty, Text.cut?] at read
            · rw [firstLine_of_cut noFeed nonempty] at read
              cases isText : lineText? bytes with
              | none => simp [isText] at read
              | some found =>
                  simp only [isText, Outcome.returned.injEq] at read
                  exact .cut noFeed nonempty (read ▸ isText)
  · intro reads
    cases reads with
    | @line line rest closed noFeed isText =>
        have first : firstLine (line ++ Turn.lineFeed :: rest) closed
            = .returned (line ++ [10], rest) := by
          have cut : Text.cut? 10 (line ++ Turn.lineFeed :: rest) = some (line, rest) :=
            Text.cut?_append noFeed rest
          rw [firstLine, cut]
        have isText : lineText? (line ++ [10]) = some text := isText
        simp only [readLine, first, isText]
    | cut noFeed nonempty isText =>
        simp only [readLine, firstLine_of_cut noFeed nonempty, isText]

/-- A stream that ends within a line does not leave a call waiting. -/
theorem readLine_of_cut (noFeed : Turn.lineFeed ∉ bytes) :
    readLine bytes true = .failed .transport ∨ ∃ text, readLine bytes true = .returned text := by
  by_cases empty : bytes = []
  · left
    rw [empty]
    rfl
  · cases isText : lineText? bytes with
    | none => exact .inl (by simp only [readLine, firstLine_of_cut noFeed empty, isText])
    | some text => exact .inr ⟨text, readLine_eq_returned_iff.mpr (.cut noFeed empty isText)⟩

end Reading

section Calls

variable (transport : Transport σ κ) (client : Client κ) (world : σ) (request : Request)
  (accept : List Char → Except Fault α)

/-- A call ends as it judges the line it reads, and a call without a result leaves the client
disconnected. -/
theorem call_spec :
    let after := client.call transport world request accept
    after.outcome = (client.reply transport world request).judge accept
      ∧ ((∃ result, after.outcome = .returned result) ∨ after.client = {}) := by
  intro after
  simp only [after, call, reply, atHand?]
  cases client.ensureLink transport world with
  | none => exact ⟨rfl, .inr rfl⟩
  | some entry =>
      obtain ⟨link, opened⟩ := entry
      simp only [exchange, settle]
      cases (transport.send opened link.connection (Text.encode request.encode)).1 with
      | refused => exact ⟨rfl, .inr rfl⟩
      | received bytes closed =>
          simp only [readLine, lineText?]
          cases firstLine (link.unread ++ bytes) closed with
          | failed error => exact ⟨rfl, .inr rfl⟩
          | unanswered => exact ⟨rfl, .inr rfl⟩
          | returned read =>
              obtain ⟨line, rest⟩ := read
              dsimp only
              cases Text.decode? line with
              | none => exact ⟨rfl, .inr rfl⟩
              | some text =>
                  simp only [Option.map_some, Outcome.judge]
                  cases accept (Text.trimEnd text) with
                  | error fault => exact ⟨rfl, .inr rfl⟩
                  | ok result => exact ⟨rfl, .inl ⟨result, rfl⟩⟩

variable {transport client world request accept}

/-- A result was accepted from the line that was read. -/
theorem judge_eq_returned_iff {reply : Outcome (List Char)} {result : α} :
    reply.judge accept = .returned result ↔
      ∃ line, reply = .returned line ∧ accept line = .ok result := by
  cases reply with
  | failed error => simp [Outcome.judge]
  | unanswered => simp [Outcome.judge]
  | returned line => cases judged : accept line <;> simp [Outcome.judge, judged]

/-- A call without a result leaves the client disconnected. -/
theorem client_eq_of_not_returned
    (none : ∀ result, (client.call transport world request accept).outcome ≠ .returned result) :
    (client.call transport world request accept).client = {} := by
  obtain ⟨_, ⟨result, returned⟩ | dropped⟩ := call_spec transport client world request accept
  · exact absurd returned (none result)
  · exact dropped

/-- A call whose reply is cut off returns if it accepts the beginning as if it were the whole, and
otherwise fails and disconnects. -/
theorem call_of_cut {cut : List UInt8}
    (atHand : client.atHand? transport world request = some (cut, true))
    (noFeed : Turn.lineFeed ∉ cut) :
    let after := client.call transport world request accept
    (Passes accept cut ∧ ∃ result, after.outcome = .returned result)
      ∨ (¬ Passes accept cut ∧ (∃ error, after.outcome = .failed error) ∧ after.client = {}) := by
  intro after
  have replyEq : client.reply transport world request = readLine cut true := by
    simp only [reply, atHand]
  have judged : after.outcome = (readLine cut true).judge accept :=
    replyEq ▸ (call_spec transport client world request accept).1
  by_cases passes : Passes accept cut
  · obtain ⟨nonempty, text, result, isText, accepted⟩ := passes
    have read := readLine_eq_returned_iff.mpr (.cut noFeed nonempty isText)
    refine .inl ⟨⟨nonempty, text, result, isText, accepted⟩, result, ?_⟩
    exact judged.trans (judge_eq_returned_iff.mpr ⟨text, read, accepted⟩)
  · have failed : ∃ error, after.outcome = .failed error := by
      rcases readLine_of_cut noFeed with ended | ⟨text, read⟩
      · exact ⟨.transport, by rw [judged, ended]; rfl⟩
      · cases judgement : accept text with
        | error fault => exact ⟨.unacceptable fault, by simp [judged, read, Outcome.judge, judgement]⟩
        | ok result =>
            cases readLine_eq_returned_iff.mp read with
            | line _ _ => simp at noFeed
            | cut _ nonempty isText =>
                exact absurd ⟨nonempty, text, result, isText, judgement⟩ passes
    obtain ⟨error, eq⟩ := failed
    exact .inr ⟨passes, ⟨error, eq⟩, client_eq_of_not_returned fun result returned => by
      cases eq.symm.trans returned⟩

end Calls

section Completions

/-- A call that reads a line it does not accept fails and leaves the client disconnected. -/
theorem call_of_unacceptable {transport : Transport σ κ} {client : Client κ} {world : σ}
    {request : Request} {accept : List Char → Except Fault α} {line : List Char} {fault : Fault}
    (read : client.reply transport world request = .returned line)
    (unacceptable : accept line = .error fault) :
    let after := client.call transport world request accept
    after.outcome = .failed (.unacceptable fault) ∧ after.client = {} := by
  intro after
  have failed : after.outcome = .failed (.unacceptable fault) := by
    rw [(call_spec transport client world request accept).1, read]
    simp only [Outcome.judge, unacceptable]
  exact ⟨failed, client_eq_of_not_returned fun result returned => by
    cases failed.symm.trans returned⟩

/-- A completion is delivered if any line is read in reply to it, and otherwise the client is left
disconnected. -/
theorem complete_cases (transport : Transport σ κ) (client : Client κ) (world : σ)
    (completion : Completion) :
    let reply := client.reply transport world completion.request
    let after := client.complete transport world completion
    (∃ line, reply = .returned line ∧ after.outcome = .returned true)
      ∨ ((∀ line, reply ≠ .returned line) ∧ after.outcome ≠ .returned true
        ∧ after.client = {}) := by
  intro reply after
  have judged := (call_spec transport client world completion.request readReceipt).1
  have recovered : after.outcome = (reply.judge readReceipt).recover false :=
    congrArg (Outcome.recover false) judged
  cases read : reply with
  | returned line =>
      refine .inl ⟨line, rfl, ?_⟩
      rw [recovered, read]
      rfl
  | failed error =>
      refine .inr ⟨by simp, ?_, client_eq_of_not_returned fun result returned => ?_⟩
      · simp [recovered, read, Outcome.judge, Outcome.recover]
      · rw [judged, show client.reply transport world completion.request = _ from read] at returned
        cases returned
  | unanswered =>
      refine .inr ⟨by simp, ?_, client_eq_of_not_returned fun result returned => ?_⟩
      · simp [recovered, read, Outcome.judge, Outcome.recover]
      · rw [judged, show client.reply transport world completion.request = _ from read] at returned
        cases returned

/-- What passes for the receipt of a completion: any line at all. So a report counts as delivered
only on the acknowledgement, and a call that reads another reply says so and disconnects, exactly if
no other line is read. Without a line the report is not delivered and the client is disconnected.
The other calls refuse the lines that they cannot read, and disconnect. -/
theorem complete_delivered_iff (transport : Transport σ κ) (client : Client κ) (world : σ)
    (completion : Completion) :
    let reply := client.reply transport world completion.request
    let after := client.complete transport world completion
    (after.outcome = .returned true ↔ ∃ line, reply = .returned line)
      ∧ (((after.outcome = .returned true → reply = .returned "OK".toList)
          ∧ (∀ line, reply = .returned line → line ≠ "OK".toList →
            after.outcome = .returned false ∧ after.client = {})) ↔
        ∀ line, reply = .returned line → line = "OK".toList)
      ∧ ((∀ line, reply ≠ .returned line) →
          after.outcome ≠ .returned true ∧ after.client = {})
      ∧ (∀ visitor line fault,
          client.reply transport world (.admission visitor) = .returned line →
          AdmitReply.parse line = .error fault →
          let tried := client.tryAdmission transport world visitor
          tried.outcome = .failed (.unacceptable fault) ∧ tried.client = {})
      ∧ (∀ line fault,
          client.reply transport world .stats = .returned line →
          Reply.readState line = .error fault →
          let asked := client.stats transport world
          asked.outcome = .failed (.unacceptable fault) ∧ asked.client = {}) := by
  intro reply after
  refine ⟨?_, ?_, ?_, ?_, ?_⟩
  · rcases complete_cases transport client world completion with
      ⟨line, read, delivered⟩ | ⟨unread, notDelivered, _⟩
    · exact ⟨fun _ => ⟨line, read⟩, fun _ => delivered⟩
    · exact ⟨fun delivered => absurd delivered notDelivered,
        fun ⟨line, read⟩ => absurd read (unread line)⟩
  · rcases complete_cases transport client world completion with
      ⟨line, read, delivered⟩ | ⟨unread, notDelivered, _⟩
    · constructor
      · rintro ⟨onlyAcknowledged, _⟩ other readOther
        cases (onlyAcknowledged delivered).symm.trans readOther
        rfl
      · intro acknowledged
        have ofLine (other : List Char) (readOther : reply = .returned other) :
            other = "OK".toList := acknowledged other readOther
        exact ⟨fun _ => ofLine line read ▸ read,
          fun other readOther different => absurd (ofLine other readOther) different⟩
    · exact ⟨fun _ line read => absurd read (unread line), fun _ =>
        ⟨fun delivered => absurd delivered notDelivered, fun line read => absurd read (unread line)⟩⟩
  · intro unread
    rcases complete_cases transport client world completion with ⟨line, read, _⟩ | ⟨_, dropped⟩
    · exact absurd read (unread line)
    · exact dropped
  · intro visitor line fault read unacceptable
    refine call_of_unacceptable read ?_
    rw [readVerdict, unacceptable]
    rfl
  · intro line fault read unacceptable
    exact call_of_unacceptable read unacceptable

/-- A report that is acknowledged counts as delivered. -/
theorem complete_delivered_iff_acknowledged :
    let world : ScriptedDaemon := { scripts := [[some (Text.encode Reply.acknowledgement), none]] }
    let completion : Completion := ⟨200, .zero, true⟩
    let client : Client Unit := {}
    let after := client.complete ScriptedDaemon.transport world completion
    client.reply ScriptedDaemon.transport world completion.request = .returned "OK".toList
      ∧ after.outcome = .returned true := by
  intro world completion client after
  have read : client.reply ScriptedDaemon.transport world completion.request
      = .returned "OK".toList := by decide +kernel
  exact ⟨read,
    (complete_delivered_iff ScriptedDaemon.transport client world completion).1.mpr ⟨_, read⟩⟩

/-- A report that the daemon did not understand counts as delivered, and the client stays
connected. -/
theorem complete_delivered_of_unknown :
    let world : ScriptedDaemon := { scripts := [[some (Text.encode Reply.unknown), none]] }
    let completion : Completion := ⟨200, .zero, true⟩
    let client : Client Unit := {}
    let after := client.complete ScriptedDaemon.transport world completion
    client.reply ScriptedDaemon.transport world completion.request = .returned "ERR unknown".toList
      ∧ after.outcome = .returned true
      ∧ after.client.isConnected = true := by
  decide +kernel

end Completions

section Cuts

/-- What is made of a result makes no difference to what passes. -/
theorem passes_map_iff {β : Type} {accept : List Char → Except Fault α} (make : α → β)
    {cut : List UInt8} :
    Passes (fun line => (accept line).map make) cut ↔ Passes accept cut := by
  refine and_congr_right fun _ => ⟨?_, ?_⟩
  · rintro ⟨text, made, isText, accepted⟩
    cases eq : accept text with
    | error fault => simp [eq, Except.map] at accepted
    | ok result => exact ⟨text, result, isText, eq⟩
  · rintro ⟨text, result, isText, accepted⟩
    exact ⟨text, make result, isText, congrArg (Except.map make) accepted⟩

/-- A line that a call reads is in the bytes at hand. -/
theorem exists_atHand_of_reply {transport : Transport σ κ} {client : Client κ} {world : σ}
    {request : Request} {line : List Char}
    (read : client.reply transport world request = .returned line) :
    ∃ bytes closed, client.atHand? transport world request = some (bytes, closed)
      ∧ ReadsFrom line bytes closed := by
  unfold reply at read
  cases atHand : client.atHand? transport world request with
  | none => simp [atHand] at read
  | some entry =>
      simp only [atHand] at read
      exact ⟨entry.1, entry.2, rfl, readLine_eq_returned_iff.mp read⟩

/-- The verdict of an admission attempt is the one it returned, or the fallback. -/
theorem admission_outcome (transport : Transport σ κ) (client : Client κ) (world : σ)
    (visitor : Visitor) :
    (client.admission transport world visitor).outcome
      = (client.tryAdmission transport world visitor).outcome.recover .failOpen := rfl

/-- What becomes of a reply that the daemon cuts off before its line feed. Every call takes what did
arrive for the whole line: it ends as at the end of the stream exactly if nothing arrived or what
arrived is no line that the call accepts. So a verdict of the daemon is always read from some line,
and that line is whole unless the stream ended within it. -/
theorem cut_reply_fails_iff (transport : Transport σ κ) (client : Client κ) (world : σ) :
    (∀ visitor cut,
        client.atHand? transport world (.admission visitor) = some (cut, true) →
        Turn.lineFeed ∉ cut →
        let tried := client.tryAdmission transport world visitor
        let asked := client.admission transport world visitor
        ((∃ error, tried.outcome = .failed error) ∧ tried.client = {}
            ∧ asked.outcome = .returned .failOpen ∧ asked.client = {}) ↔
          ¬ Passes AdmitReply.parse cut)
      ∧ (∀ cut,
          client.atHand? transport world .stats = some (cut, true) →
          Turn.lineFeed ∉ cut →
          let asked := client.stats transport world
          ((∃ error, asked.outcome = .failed error) ∧ asked.client = {}) ↔
            ¬ Passes Reply.readState cut)
      ∧ (∀ completion cut,
          client.atHand? transport world completion.request = some (cut, true) →
          Turn.lineFeed ∉ cut →
          let reported := client.complete transport world completion
          (reported.outcome = .returned false ∧ reported.client = {}) ↔
            ¬ Passes (fun _ => .ok true) cut)
      ∧ (∀ visitor verdict,
          (client.admission transport world visitor).outcome = .returned verdict →
          verdict.contacted = true →
          ∃ bytes closed line answer,
            client.atHand? transport world (.admission visitor) = some (bytes, closed)
              ∧ ReadsFrom line bytes closed
              ∧ AdmitReply.parse line = .ok answer
              ∧ verdict = .ofReply answer) := by
  refine ⟨?_, ?_, ?_, ?_⟩
  · intro visitor cut atHand noFeed tried asked
    rw [← passes_map_iff Verdict.ofReply]
    have recovered : asked.outcome = tried.outcome.recover .failOpen :=
      admission_outcome transport client world visitor
    rcases call_of_cut atHand noFeed with
      ⟨passes, verdict, returned⟩ | ⟨notPasses, ⟨error, failed⟩, dropped⟩
    · refine iff_of_false ?_ (not_not_intro passes)
      rintro ⟨⟨error, failed⟩, _⟩
      cases failed.symm.trans returned
    · have failedOpen : asked.outcome = .returned .failOpen := by
        rw [recovered, show tried.outcome = _ from failed]
        rfl
      exact iff_of_true ⟨⟨error, failed⟩, dropped, failedOpen, dropped⟩ notPasses
  · intro cut atHand noFeed asked
    rcases call_of_cut atHand noFeed with
      ⟨passes, state, returned⟩ | ⟨notPasses, failed, dropped⟩
    · refine iff_of_false ?_ (not_not_intro passes)
      rintro ⟨⟨error, failed⟩, _⟩
      cases failed.symm.trans returned
    · exact iff_of_true ⟨failed, dropped⟩ notPasses
  · intro completion cut atHand noFeed reported
    rcases call_of_cut atHand noFeed with
      ⟨passes, delivered, returned⟩ | ⟨notPasses, ⟨error, failed⟩, dropped⟩
    · refine iff_of_false ?_ (not_not_intro passes)
      rintro ⟨notDelivered, _⟩
      obtain ⟨line, read, _⟩ := judge_eq_returned_iff.mp
        ((call_spec transport client world completion.request _).1.symm.trans returned)
      rcases complete_cases transport client world completion with ⟨_, _, isDelivered⟩ | ⟨unread, _⟩
      · cases isDelivered.symm.trans notDelivered
      · exact unread line read
    · exact iff_of_true ⟨congrArg (Outcome.recover false) failed, dropped⟩ notPasses
  · intro visitor verdict returned contacted
    rw [admission_outcome] at returned
    cases tried : (client.tryAdmission transport world visitor).outcome with
    | failed error =>
        rw [tried] at returned
        cases returned
        cases contacted
    | unanswered =>
        rw [tried] at returned
        cases returned
    | returned found =>
        rw [tried] at returned
        cases returned
        obtain ⟨line, read, accepted⟩ := judge_eq_returned_iff.mp
          ((call_spec transport client world (.admission visitor) _).1.symm.trans tried)
        obtain ⟨bytes, closed, atHand, reads⟩ := exists_atHand_of_reply read
        cases parsed : AdmitReply.parse line with
        | error fault => simp [readVerdict, parsed, Except.map] at accepted
        | ok answer =>
            simp only [readVerdict, parsed, Except.map, Except.ok.injEq] at accepted
            exact ⟨bytes, closed, line, answer, atHand, reads, parsed, accepted.symm⟩

/-- A reply that is cut off within its first word fails open. -/
theorem cut_reply_fails_iff_half_verdict :
    let world : ScriptedDaemon := { scripts := [[some (Text.encode "REJ".toList)]] }
    let client : Client Unit := {}
    client.atHand? ScriptedDaemon.transport world (.admission .anonymous)
        = some (Text.encode "REJ".toList, true)
      ∧ Turn.lineFeed ∉ Text.encode "REJ".toList
      ∧ (client.admission ScriptedDaemon.transport world .anonymous).outcome
        = .returned .failOpen := by
  intro world client
  have atHand : client.atHand? ScriptedDaemon.transport world (.admission .anonymous)
      = some (Text.encode "REJ".toList, true) := by decide +kernel
  have noFeed : Turn.lineFeed ∉ Text.encode "REJ".toList := by decide +kernel
  have notPasses : ¬ Passes AdmitReply.parse (Text.encode "REJ".toList) := by
    rintro ⟨_, text, answer, isText, accepted⟩
    have textEq : lineText? (Text.encode "REJ".toList) = some "REJ".toList := by decide +kernel
    have refused : AdmitReply.parse "REJ".toList = .error (.unexpectedAdmitReply "REJ".toList) := by
      decide +kernel
    cases textEq.symm.trans isText
    cases refused.symm.trans accepted
  exact ⟨atHand, noFeed,
    (((cut_reply_fails_iff ScriptedDaemon.transport client world).1 _ _ atHand noFeed).mpr
      notPasses).2.2.1⟩

/-- Beginnings of replies that pass for whole ones: a verdict whose number in flight has lost a
digit, a state in the same way, and half of an acknowledgement. The client stays connected each
time. -/
theorem cut_replies_accepted :
    let world (cut : String) : ScriptedDaemon := { scripts := [[some (Text.encode cut.toList)]] }
    let client : Client Unit := {}
    let asked := client.admission ScriptedDaemon.transport (world "OK limit=4 inflight=1") .anonymous
    let read := client.stats ScriptedDaemon.transport (world "limit=9 inflight=1 degraded=0")
    let reported := client.complete ScriptedDaemon.transport (world "O") ⟨200, .zero, true⟩
    (asked.outcome = .returned ⟨true, some 4, some 1, false, true⟩
        ∧ asked.client.isConnected = true)
      ∧ (read.outcome = .returned ⟨9, 1, false⟩ ∧ read.client.isConnected = true)
      ∧ (reported.outcome = .returned true ∧ reported.client.isConnected = true) := by
  decide +kernel

end Cuts

end Client

end AdmissionControl
