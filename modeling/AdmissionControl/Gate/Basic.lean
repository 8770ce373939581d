import AdmissionControl.Gate.Backend
import AdmissionControl.Gate.Classifier
import AdmissionControl.Gate.Throttle
import AdmissionControl.Settings.Basic

/-!
# The gate

The gate stands before the handler of an HTTP server. It classifies each request and asks a backend
for admission; anonymous requests are turned away when the answer is no, all others go on to the
handler. A request whose verdict came from the backend reports its end there, once. The time is part
of the state, in nanoseconds since the gate was made.
-/

namespace AdmissionControl

open Wire

namespace Gate

/-- What a gate is set up with. -/
structure Plan where
  settings : Settings
  classifier : Classifier

/-- What a gate warns of. -/
inductive Warning where
  | unmetered
  | undelivered
  | unclassified (fault : Classifier.Fault)
  | panicked
  /-- A request was dropped where its slot cannot be given back. -/
  | unreleased
deriving DecidableEq

/-- The class that a warning is throttled in, if it is. -/
def Warning.throttled? : Warning → Option Throttle.Class
  | .unmetered => some .admission
  | .undelivered => some .completion
  | .unclassified _ => some .classification
  | .panicked => some .handler
  | .unreleased => none

/-- The wording of a warning. -/
def Warning.message : Warning → String
  | .unmetered => "Admission daemon unavailable, admitting unmetered"
  | .undelivered => "Failed to report completion to admission daemon"
  | .unclassified _ => "Request classification failed, treating as anonymous"
  | .panicked => "Handler panicked behind admission control"
  | .unreleased => "No runtime to release slot of dropped request"

/-- What a gate did. -/
inductive Event where
  | asked (visitor : Visitor)
  | started
  | reported (completion : Completion)
  | warned (warning : Warning)
deriving DecidableEq

end Gate

/-- The state of a gate before a backend with state `σ`. -/
structure Gate (σ : Type) where
  backend : σ
  /-- The time since the gate was made, in nanoseconds. -/
  time : Nat := 0
  throttle : Throttle := .fresh
  log : List Gate.Event := []

namespace Gate

variable {σ : Type}

/-- A request that is in its handler: when it came, whether its latency counts, and its verdict. A
gate that is switched off asks for none. -/
structure Passage where
  start : Nat
  sampled : Bool
  verdict : Option Verdict
deriving DecidableEq

/-- How a handler ended. -/
inductive HandlerEnd where
  | responded (response : Http.Response)
  | panicked
deriving DecidableEq

/-- What came of a request at the gate. -/
inductive Entry where
  | shed (response : Http.Response)
  | passed (passage : Passage)
deriving DecidableEq

/-- Adds to the log. -/
def record (gate : Gate σ) (event : Event) : Gate σ := { gate with log := gate.log ++ [event] }

/-- Lets time pass. -/
def advance (gate : Gate σ) (nanoseconds : Nat) : Gate σ :=
  { gate with time := gate.time + nanoseconds }

/-- Gives a warning, unless it is throttled. -/
def warn (plan : Plan) (gate : Gate σ) (warning : Warning) : Gate σ :=
  match warning.throttled? with
  | none => gate.record (.warned warning)
  | some kind =>
      let interval := plan.settings.warnTime
      if gate.throttle.permits interval gate.time kind then
        { gate.record (.warned warning) with throttle := gate.throttle.record gate.time kind }
      else
        gate

/-- Gives a warning if there is cause for it. -/
def warnIf (plan : Plan) (gate : Gate σ) (cause : Bool) (warning : Warning) : Gate σ :=
  if cause then gate.warn plan warning else gate

/-- Who a request is taken to come from: one that cannot be classified counts as anonymous. -/
def classify (plan : Plan) (gate : Gate σ) (request : Http.Request) : Visitor × Gate σ :=
  match plan.classifier request with
  | .ok visitor => (visitor, gate)
  | .error fault => (.anonymous, gate.warn plan (.unclassified fault))

/-- Whether the latency of requests under a path is left out. -/
def isUnsampled (settings : Settings) (path : List Char) : Bool :=
  settings.unsampledPrefixes.any (·.isPrefixOf path)

/-- Adds the headers that show a verdict. What it leaves open stays as the handler set it. -/
def showVerdict (verdict : Verdict) (headers : Http.Headers) : Http.Headers :=
  let number (name : String) (value : Option UInt32) (headers : Http.Headers) : Http.Headers :=
    match value with
    | some word => headers.insert name (Http.ofNumber word.toNat)
    | none => headers
  (number "x-ac-inflight" verdict.inflight (number "x-ac-limit" verdict.limit headers)).insert
    "x-ac-degraded" (Text.encode (writeFlag verdict.degraded))

/-- The text of the response to requests that are turned away. -/
def busyText : List Char :=
  "The server is busy right now. Please try again shortly.".toList

/-- The status of a response to a request that is turned away. -/
def busyStatus : UInt16 := 503

/-- The status that is reported for a handler that panicked. -/
def panickedStatus : UInt16 := 500

/-- The status that is reported for a request that was dropped in its handler. -/
def droppedStatus : UInt16 := 499

/-- The response to a request that is turned away. -/
def busyResponse (settings : Settings) (verdict : Verdict) : Http.Response where
  status := busyStatus
  headers :=
    showVerdict verdict
      [("content-type".toList, Text.encode "text/plain".toList),
        ("retry-after".toList, Http.ofNumber settings.retryAfterSeconds.toNat)]
  body := busyText

/-- A request that is classified asks for admission. -/
def ask (plan : Plan) (gate : Gate σ) (request : Http.Request) : Visitor × Gate σ :=
  let (visitor, classified) := gate.classify plan request
  (visitor, classified.record (.asked visitor))

/-- A request that came at `start` has its verdict. -/
def judge (plan : Plan) (gate : Gate σ) (visitor : Visitor) (start : Nat) (sampled : Bool)
    (verdict : Verdict) : Entry × Gate σ :=
  let warned := gate.warnIf plan (!verdict.contacted) .unmetered
  if visitor = .authenticated ∨ verdict.admitted then
    (.passed ⟨start, sampled, some verdict⟩, warned.record .started)
  else
    (.shed (busyResponse plan.settings verdict), warned)

/-- A request comes to the gate. -/
def enter (plan : Plan) (backend : Backend σ) (gate : Gate σ) (request : Http.Request) :
    Entry × Gate σ :=
  if !plan.settings.enabled then
    (.passed ⟨gate.time, false, none⟩, gate.record .started)
  else
    let (visitor, asked) := gate.ask plan request
    let (verdict, world) := backend.ask asked.backend visitor
    { asked with backend := world }.judge plan visitor gate.time
      (!isUnsampled plan.settings request.path) verdict

/-- A thousand, the number of milliseconds in a second. -/
def thousand : Binary64 := .ofNat 1000

/-- A time in seconds as whole milliseconds. -/
def wholeMilliseconds (seconds : Binary64) : Binary64 := (seconds * thousand).round

/-- A time in nanoseconds as seconds. The whole seconds and the rest are converted apart. -/
def toSeconds (nanoseconds : Nat) : Binary64 :=
  .ofNat (nanoseconds / Settings.nanosecondsPerSecond)
    + .ofNat (nanoseconds % Settings.nanosecondsPerSecond)
      / .ofNat Settings.nanosecondsPerSecond

/-- The milliseconds since a request came. -/
def elapsed (gate : Gate σ) (passage : Passage) : Binary64 :=
  wholeMilliseconds (toSeconds (gate.time - passage.start))

/-- The milliseconds that a handler says it took: the first value of its header, in seconds, if that
is a finite number and not negative. -/
def statedLatency? (headers : Http.Headers) : Option Binary64 := do
  let value ← headers.get? "x-runtime"
  let text ← Http.readVisible? value
  let seconds ← Binary64.read? (Text.trim text)
  if seconds.isFinite && !seconds.lessThan .zero then some (wholeMilliseconds seconds) else none

/-- The report on a request whose handler ended. -/
def completion (gate : Gate σ) (passage : Passage) : HandlerEnd → Completion
  | .responded response =>
      ⟨response.status, (statedLatency? response.headers).getD (gate.elapsed passage),
        passage.sampled⟩
  | .panicked => ⟨panickedStatus, gate.elapsed passage, passage.sampled⟩

/-- The report on a request that was dropped in its handler. -/
def droppedCompletion (gate : Gate σ) (passage : Passage) : Completion :=
  ⟨droppedStatus, gate.elapsed passage, false⟩

/-- Reports to the backend: whether the report was delivered, and the gate after it. -/
def report (backend : Backend σ) (gate : Gate σ) (completion : Completion) : Bool × Gate σ :=
  let (delivered, world) := backend.report gate.backend completion
  (delivered, { gate.record (.reported completion) with backend := world })

/-- A request with a verdict leaves the gate, whatever became of its report. -/
def depart (plan : Plan) (gate : Gate σ) (verdict : Verdict) : HandlerEnd → HandlerEnd × Gate σ
  | .responded response =>
      (.responded { response with headers := showVerdict verdict response.headers }, gate)
  | .panicked => (.panicked, gate.warn plan .panicked)

/-- The handler of a request ends, and the request leaves the gate. -/
def leave (plan : Plan) (backend : Backend σ) (gate : Gate σ) (passage : Passage)
    (ending : HandlerEnd) : HandlerEnd × Gate σ :=
  match passage.verdict with
  | none => (ending, gate)
  | some verdict =>
      let reported :=
        if verdict.contacted then
          let (delivered, after) := gate.report backend (gate.completion passage ending)
          after.warnIf plan (!delivered) .undelivered
        else
          gate
      reported.depart plan verdict ending

/-- A request is dropped in its handler. Its slot can be given back only while there is something to
run the report. -/
def drop (plan : Plan) (backend : Backend σ) (gate : Gate σ) (passage : Passage)
    (canReport : Bool) : Gate σ :=
  if passage.verdict.any Verdict.contacted then
    if canReport then (gate.report backend (gate.droppedCompletion passage)).2
    else gate.warn plan .unreleased
  else
    gate

end Gate

end AdmissionControl
