import AdmissionControl.Proofs.Binary64.Scaling
import AdmissionControl.Proofs.Gate.Reports
import AdmissionControl.Proofs.Wire.RequestCodec

/-!
# What latencies are reported

A report gives the latency as a whole number of milliseconds. The time since a request came always
makes one. The seconds that a handler states are looked at before they are turned into
milliseconds, and if their thousandfold lies past the finite values, infinity is reported, which no
request line may state.
-/

namespace AdmissionControl

open Wire

namespace Binary64

/-- A latency that a request line may state as it is: a finite whole number of milliseconds, not
negative, with a text that the reader of requests takes for exactly this latency. -/
structure IsLatency (latency : Binary64) : Prop where
  finite : latency.isFinite = true
  notNegative : latency.lessThan .zero = false
  whole : ∃ milliseconds : Nat, latency.rank = some ((milliseconds * unitsPerOne : Nat) : Int)
  stated : ∃ text, Text.IsWord text ∧ read? text = some latency
    ∧ Request.parse ("COMPLETE rtt_ms=".toList ++ text ++ ['\n'])
      = .ok (.complete latency none true)

section Stating

theorem lessThan_zero_finite (magnitude : Magnitude) :
    (finite false magnitude).lessThan .zero = false := by
  simp [lessThan, rank, zero, Magnitude.zero]

/-- A word that reads as a finite latency which is not negative is taken for that latency. -/
theorem parse_of_stated {latency : Binary64} (finite : latency.isFinite = true)
    (notNegative : latency.lessThan .zero = false) {text : List Char} (isWord : Text.IsWord text)
    (read : read? text = some latency) :
    Request.parse ("COMPLETE rtt_ms=".toList ++ text ++ ['\n'])
      = .ok (.complete latency none true) := by
  have areFields : ∀ field ∈ [("rtt_ms".toList, text)], IsField field := by
    intro field member
    rw [List.mem_singleton.mp member]
    exact isField_of_word (.of_all rfl) rfl isWord
  have line : "COMPLETE rtt_ms=".toList ++ text ++ ['\n']
      = writeLine "COMPLETE".toList [("rtt_ms".toList, text)] := by
    simp [writeLine, writeField]
  rw [line, Request.parse_of_tokens (tokens_writeLine (.of_all rfl) areFields),
    Fields.ofTokens_map_writeField areFields]
  have ofLatency : Request.readLatency [("rtt_ms".toList, text)] = .ok latency := by
    have given : Fields.read? [("rtt_ms".toList, text)] "rtt_ms" read? = .ok (some latency) := by
      simp [Fields.read?, Fields.get?, read]
    rw [Request.readLatency, given]
    dsimp only [Option.getD_some]
    rw [if_pos (by rw [finite, notNegative]; rfl)]
  exact Request.readComplete_of_read ofLatency rfl rfl

/-- A representable whole number is read from its digits. -/
theorem read?_write_of_representable {number : Nat}
    (representable : Representable (number * unitsPerOne)) :
    read? (Text.Numeral.write number) = some (.finite false ⟨_, representable⟩) := by
  have digits : ∀ character ∈ Text.Numeral.write number, character.isDigit = true :=
    fun _ member => Text.Numeral.isDigit_of_mem_write member
  have denoted : Nat.ofDigitChars 10 (Text.Numeral.write number) 0 = number :=
    Nat.ofDigitChars_toDigits (by decide) (by decide)
  have below : number < 2 ^ (totalBits - fractionBits) := by
    have bounded := representable.1
    rw [unitBound_eq_two_pow_mul] at bounded
    exact Nat.lt_of_mul_lt_mul_right bounded
  have short : (Text.Numeral.write number).length ≤ 320 :=
    (Nat.length_toDigits_le_iff (by decide) (by decide)).mpr
      (Nat.lt_trans below (by decide +kernel))
  have value : ofDecimal false number 0 = ofNat number := ofDecimal_zero_of_length_le short
  rw [read?_of_digits (Text.Numeral.write_ne_nil number) digits, denoted, value,
    ofNat_of_representable representable]

/-- A whole number of milliseconds can be stated. -/
theorem isLatency_of_whole {milliseconds : Nat}
    (representable : Representable (milliseconds * unitsPerOne)) :
    (finite false ⟨milliseconds * unitsPerOne, representable⟩).IsLatency := by
  have notNegative := lessThan_zero_finite ⟨milliseconds * unitsPerOne, representable⟩
  have read := read?_write_of_representable representable
  have isWord := Text.Numeral.isWord_write milliseconds
  exact ⟨rfl, notNegative, ⟨milliseconds, rfl⟩, _, isWord, read,
    parse_of_stated rfl notNegative isWord read⟩

/-- So can none at all with a minus sign. -/
theorem isLatency_negative_zero : (finite true .zero).IsLatency := by
  have isWord : Text.IsWord "-0".toList := .of_all rfl
  have read : read? "-0".toList = some (.finite true .zero) := by decide +kernel
  exact ⟨rfl, by decide, ⟨0, by decide +kernel⟩, _, isWord, read,
    parse_of_stated rfl (by decide) isWord read⟩

theorem not_isLatency_infinite (negative : Bool) : ¬ (infinite negative).IsLatency :=
  fun isLatency => Bool.false_ne_true isLatency.finite

end Stating

end Binary64

namespace Gate

open Binary64

section Conversion

/-- A thousand times a number of seconds lies past the finite values. -/
def IsOverlong (seconds : Binary64) : Prop :=
  ∃ units : Int, seconds.rank = some units ∧ (unitBound : Int) ≤ units * 1000

theorem isOverlong_finite_iff (magnitude : Magnitude) :
    IsOverlong (.finite false magnitude) ↔ unitBound ≤ magnitude.units * 1000 := by
  have ranked : (Binary64.finite false magnitude).rank = some (magnitude.units : Int) := rfl
  constructor
  · rintro ⟨units, eq, reached⟩
    rw [ranked] at eq
    obtain rfl := Option.some.inj eq
    omega
  · exact fun reached => ⟨_, ranked, by omega⟩

/-- Finite seconds from zero on become a latency if they are not overlong, and else infinity. -/
theorem wholeMilliseconds_spec {seconds : Binary64} (finite : seconds.isFinite = true)
    (notNegative : seconds.lessThan .zero = false) :
    (¬ IsOverlong seconds → (wholeMilliseconds seconds).IsLatency)
      ∧ (IsOverlong seconds → wholeMilliseconds seconds = .infinite false) := by
  cases seconds with
  | nan | infinite => cases finite
  | finite negative magnitude =>
      cases negative with
      | false =>
          obtain ⟨below, reached⟩ := finite_mul_thousand false magnitude
          have scale : wholeMilliseconds (.finite false magnitude)
              = (Binary64.finite false magnitude * ofNat 1000).round := rfl
          rw [scale, isOverlong_finite_iff]
          constructor
          · intro fits
            obtain ⟨scaled, eq⟩ := below (Nat.lt_of_not_le fits)
            rw [eq, round_finite]
            exact isLatency_of_whole scaled.representable_nearestWhole
          · intro overlong
            rw [reached overlong]
            rfl
      | true =>
          -- Of the values with a minus sign only zero is not below zero.
          obtain ⟨units, representable⟩ := magnitude
          obtain rfl : units = 0 := by
            have atLeast := Int.not_lt.mp (of_decide_eq_false notNegative)
            change (0 : Int) ≤ -(units : Int) at atLeast
            omega
          have none : wholeMilliseconds (.finite true .zero) = .finite true .zero := by
            decide +kernel
          rw [show (⟨0, representable⟩ : Magnitude) = .zero from rfl]
          rw [none]
          refine ⟨fun _ => isLatency_negative_zero, ?_⟩
          rintro ⟨units, eq, reached⟩
          obtain rfl : (0 : Int) = units := Option.some.inj eq
          have positive := unitBound_pos
          omega

end Conversion

section Elapsed

/-- The nanoseconds of the longest span of time: whole seconds are counted in 64 bits. -/
def greatestSpan : Nat := 2 ^ 64 * Settings.nanosecondsPerSecond

/-- The seconds of a span are at least zero and never overlong. -/
theorem toSeconds_spec {nanoseconds : Nat} (span : nanoseconds < greatestSpan) :
    (toSeconds nanoseconds).IsWithin 65 := by
  have whole : nanoseconds / Settings.nanosecondsPerSecond < 2 ^ 64 :=
    (Nat.div_lt_iff_lt_mul (by decide)).mpr span
  have fraction : nanoseconds % Settings.nanosecondsPerSecond ≤ Settings.nanosecondsPerSecond :=
    Nat.le_of_lt (Nat.mod_lt _ (by decide))
  have ofWhole : (ofNat (nanoseconds / Settings.nanosecondsPerSecond)).IsWithin 64 :=
    isWithin_ofNat (by decide) (Nat.le_of_lt whole)
  have ofFraction := isWithin_ofNat_div (by decide) (by decide) fraction
  exact ofWhole.add (ofFraction.mono (by decide)) (by decide)

/-- The time since a request came is always a latency. -/
theorem elapsed_isLatency {σ : Type} {gate : Gate σ} {passage : Passage}
    (span : gate.time - passage.start < greatestSpan) : (gate.elapsed passage).IsLatency := by
  obtain ⟨magnitude, eq, bounded⟩ := toSeconds_spec span
  have fits : ¬ IsOverlong (.finite false magnitude) := by
    rw [isOverlong_finite_iff, Nat.not_le]
    have few : 2 ^ 65 * 1000 ≤ 2 ^ 75 := by decide
    have below := mul_unitsPerOne_lt_unitBound few (by decide)
    rw [Nat.mul_right_comm] at below
    exact Nat.lt_of_le_of_lt (Nat.mul_le_mul_right 1000 bounded) below
  rw [elapsed, eq]
  exact (wholeMilliseconds_spec rfl (lessThan_zero_finite magnitude)).1 fits

end Elapsed

section Stated

/-- The seconds that a handler says it took: the first value of its header, if that is a finite
number and not negative. -/
def statedSeconds? (headers : Http.Headers) : Option Binary64 := do
  let value ← headers.get? "x-runtime"
  let text ← Http.readVisible? value
  let seconds ← Binary64.read? (Text.trim text)
  if seconds.isFinite && !seconds.lessThan .zero then some seconds else none

theorem statedLatency?_eq (headers : Http.Headers) :
    statedLatency? headers = (statedSeconds? headers).map wholeMilliseconds := by
  unfold statedLatency? statedSeconds?
  simp only [Option.bind_eq_bind, Option.map_bind]
  refine Option.bind_congr fun value _ => ?_
  rw [Function.comp_apply, Option.map_bind]
  refine Option.bind_congr fun text _ => ?_
  rw [Function.comp_apply, Option.map_bind]
  refine Option.bind_congr fun seconds _ => ?_
  rw [Function.comp_apply, Option.map_if]

/-- Only seconds that are finite and not negative count. -/
theorem usable_of_statedSeconds? {headers : Http.Headers} {seconds : Binary64}
    (stated : statedSeconds? headers = some seconds) :
    seconds.isFinite = true ∧ seconds.lessThan .zero = false := by
  unfold statedSeconds? at stated
  simp only [Option.bind_eq_bind, Option.bind_eq_some_iff] at stated
  obtain ⟨_, _, _, _, _, _, counts⟩ := stated
  split at counts
  · next usable =>
    cases counts
    simpa using usable
  · cases counts

/-- A handler responded and stated overlong seconds. -/
def HandlerEnd.Overstates (ending : HandlerEnd) : Prop :=
  ∃ response seconds, ending = .responded response
    ∧ statedSeconds? response.headers = some seconds ∧ IsOverlong seconds

variable {σ : Type} {gate : Gate σ} {passage : Passage} {ending : HandlerEnd}

/-- A handler that states no seconds of use does not overstate them. -/
theorem HandlerEnd.Overstates.responded {response : Http.Response}
    (overstates : (HandlerEnd.responded response).Overstates) :
    ∃ seconds, statedSeconds? response.headers = some seconds ∧ IsOverlong seconds := by
  obtain ⟨_, seconds, responded, stated, overlong⟩ := overstates
  cases responded
  exact ⟨seconds, stated, overlong⟩

theorem latency_responded (response : Http.Response) :
    (gate.completion passage (.responded response)).latency
      = ((statedSeconds? response.headers).map wholeMilliseconds).getD (gate.elapsed passage) := by
  rw [← statedLatency?_eq, completion]

theorem latency_panicked : (gate.completion passage .panicked).latency = gate.elapsed passage := by
  rw [completion]

/-- The report on a handler gives a latency, unless the handler states overlong seconds: then it
gives infinity. -/
theorem latency_completion (ending : HandlerEnd)
    (span : gate.time - passage.start < greatestSpan) :
    (¬ ending.Overstates → (gate.completion passage ending).latency.IsLatency)
      ∧ (ending.Overstates → (gate.completion passage ending).latency = .infinite false) := by
  have elapsed := elapsed_isLatency span
  cases ending with
  | panicked =>
      rw [latency_panicked]
      refine ⟨fun _ => elapsed, ?_⟩
      rintro ⟨_, _, responded, _⟩
      cases responded
  | responded response =>
      rw [latency_responded]
      cases stated : statedSeconds? response.headers with
      | none =>
          rw [Option.map_none, Option.getD_none]
          refine ⟨fun _ => elapsed, fun overstates => ?_⟩
          obtain ⟨seconds, given, _⟩ := overstates.responded
          rw [stated] at given
          cases given
      | some seconds =>
          obtain ⟨finite, notNegative⟩ := usable_of_statedSeconds? stated
          obtain ⟨fits, overlong⟩ := wholeMilliseconds_spec finite notNegative
          rw [Option.map_some, Option.getD_some]
          refine ⟨fun truthful => fits fun isOverlong => ?_, fun overstates => ?_⟩
          · exact truthful ⟨response, seconds, rfl, stated, isOverlong⟩
          · obtain ⟨given, isGiven, isOverlong⟩ := overstates.responded
            rw [stated] at isGiven
            cases isGiven
            exact overlong isOverlong

theorem isLatency_completion_iff (span : gate.time - passage.start < greatestSpan) :
    (gate.completion passage ending).latency.IsLatency ↔ ¬ ending.Overstates := by
  obtain ⟨truthful, overstated⟩ := latency_completion ending span
  refine ⟨fun isLatency overstates => ?_, truthful⟩
  rw [overstated overstates] at isLatency
  exact not_isLatency_infinite false isLatency

theorem isLatency_droppedCompletion (span : gate.time - passage.start < greatestSpan) :
    (gate.droppedCompletion passage).latency.IsLatency := by
  have reported : (gate.droppedCompletion passage).latency = gate.elapsed passage := by
    rw [droppedCompletion]
  rw [reported]
  exact elapsed_isLatency span

end Stated

section Time

variable {σ : Type} {plan : Plan} {gate : Gate σ}

@[simp] theorem time_record (gate : Gate σ) (event : Event) :
    (gate.record event).time = gate.time := rfl

@[simp] theorem time_warn (gate : Gate σ) (warning : Warning) :
    (gate.warn plan warning).time = gate.time := by
  unfold warn
  dsimp only
  repeat' split
  all_goals rfl

@[simp] theorem time_warnIf (gate : Gate σ) (cause : Bool) (warning : Warning) :
    (gate.warnIf plan cause warning).time = gate.time := by
  cases cause <;> simp [warnIf]

@[simp] theorem time_ask (gate : Gate σ) (request : Http.Request) :
    (gate.ask plan request).2.time = gate.time := by
  unfold ask classify
  dsimp only
  split <;> simp

@[simp] theorem time_depart (gate : Gate σ) (verdict : Verdict) (ending : HandlerEnd) :
    (gate.depart plan verdict ending).2.time = gate.time := by
  cases ending <;> simp [depart]

@[simp] theorem time_judge (gate : Gate σ) (visitor : Visitor) (start : Nat) (sampled : Bool)
    (verdict : Verdict) :
    (gate.judge plan visitor start sampled verdict).2.time = gate.time := by
  unfold judge
  dsimp only
  split <;> simp

@[simp] theorem time_finishing (gate : Gate σ) (passage : Passage) (ending : HandlerEnd) :
    (gate.finishing plan passage ending).2.time = gate.time := by
  unfold finishing
  dsimp only
  repeat' split
  all_goals simp

@[simp] theorem time_abandoning (gate : Gate σ) (passage : Passage) (canReport : Bool) :
    (gate.abandoning plan passage canReport).2.time = gate.time := by
  unfold abandoning
  dsimp only
  repeat' split
  all_goals simp

/-- What happens to a request takes no time by itself. -/
theorem time_proceed? {stage next : Stage} {incident : Incident} {after : Gate σ}
    (proceeded : gate.proceed? plan stage incident = some (next, after)) :
    after.time = gate.time := by
  unfold proceed? at proceeded
  split at proceeded
  case h_5 =>
    split at proceeded
    · cases proceeded
    · obtain ⟨_, rfl⟩ := Prod.mk.inj (Option.some.inj proceeded)
      rfl
  case h_7 => cases proceeded
  all_goals
    rw [Option.some.injEq, Prod.ext_iff] at proceeded
    obtain ⟨_, rfl⟩ := proceeded
    simp

theorem time_receive (gate : Gate σ) (request : Http.Request) :
    (gate.receive plan request).2.time = gate.time := by
  unfold receive
  dsimp only
  split <;> simp

namespace Lobby

variable {lobby : Lobby σ}

/-- Time only passes. -/
theorem time_le_act (lobby : Lobby σ) (action : Action σ) :
    lobby.gate.time ≤ (lobby.act plan action).gate.time := by
  cases action with
  | come request => exact Nat.le_of_eq (time_receive lobby.gate request).symm
  | meet number incident =>
      rw [act, meet]
      split
      · next stage gate moved =>
        obtain ⟨_, _, proceeded⟩ := Option.bind_eq_some_iff.mp moved
        exact Nat.le_of_eq (time_proceed? proceeded).symm
      · exact Nat.le_refl _
  | advance nanoseconds => exact Nat.le_add_right _ _
  | change state => exact Nat.le_refl _

theorem time_le_run (lobby : Lobby σ) (actions : List (Action σ)) :
    lobby.gate.time ≤ (lobby.run plan actions).gate.time := by
  induction actions generalizing lobby with
  | nil => exact Nat.le_refl _
  | cons action actions inductionHypothesis =>
      exact Nat.le_trans (lobby.time_le_act action) (inductionHypothesis _)

end Lobby

end Time

section Reports

variable {σ : Type} {plan : Plan} {gate : Gate σ}

/-- What is reported when something happens to a request gives a latency, unless a handler ends that
states overlong seconds. -/
theorem Proceeds.latency {stage next : Stage} {incident : Incident} {starts : Nat}
    {reports : List Completion} (proceeds : Proceeds plan gate stage incident next starts reports)
    (inTime : gate.time < greatestSpan) {completion : Completion}
    (reported : completion ∈ reports) :
    completion.latency.IsLatency
      ∨ completion.latency = .infinite false
        ∧ ∃ ending, incident = .finished ending ∧ ending.Overstates := by
  cases proceeds with
  | reported given contacted =>
      rename_i passage ending _
      obtain rfl := List.mem_singleton.mp reported
      have span : gate.time - passage.start < greatestSpan := by omega
      obtain ⟨truthful, overstated⟩ := latency_completion ending span
      by_cases overstates : ending.Overstates
      · exact .inr ⟨overstated overstates, ending, rfl, overstates⟩
      · exact .inl (truthful overstates)
  | abandoned given contacted =>
      rename_i passage _
      obtain rfl := List.mem_singleton.mp reported
      have span : gate.time - passage.start < greatestSpan := by omega
      exact .inl (isLatency_droppedCompletion span)
  | _ => cases reported

namespace Lobby

variable {lobby : Lobby σ}

theorem reports_receive (plan : Plan) (gate : Gate σ) (request : Http.Request) :
    (gate.receive plan request).1.reports = [] := by
  unfold receive
  dsimp only
  split
  · exact (did_ask plan gate request).eventsSince.2
  · exact (did_started gate).eventsSince.2

/-- What holds of all reports so far and of those that a step makes, holds of all reports after the
step. -/
theorem reports_act {kept : Completion → Prop} {action : Action σ}
    (all : ∀ visit ∈ lobby.visits, ∀ completion ∈ visit.reports, kept completion)
    (new : ∀ {number incident stage next starts reports}, action = .meet number incident →
      Proceeds plan lobby.gate stage incident next starts reports →
      ∀ completion ∈ reports, kept completion) :
    ∀ visit ∈ (lobby.act plan action).visits, ∀ completion ∈ visit.reports, kept completion := by
  intro visit isVisit completion reported
  cases action with
  | come request =>
      rcases List.mem_append.mp isVisit with before | added
      · exact all visit before completion reported
      · obtain rfl : visit = (lobby.gate.receive plan request).1 := List.mem_singleton.mp added
        rw [reports_receive] at reported
        cases reported
  | meet other incident =>
      obtain ⟨number, found⟩ := List.getElem?_of_mem isVisit
      have inBounds : number < lobby.visits.length := by
        rw [← length_visits_meet lobby other incident]
        exact (List.getElem?_eq_some_iff.mp found).1
      have before := List.getElem_mem inBounds
      obtain stays | ⟨next, after, proceeded, moved⟩ :=
        moved_meet (List.getElem?_eq_getElem inBounds) other incident
      · obtain rfl := Option.some.inj (found.symm.trans stays)
        exact all _ before completion reported
      · obtain rfl := Option.some.inj (found.symm.trans moved)
        obtain ⟨starts, reports, proceeds, did⟩ := proceeds_of_proceed? proceeded
        rw [Visit.reports_goOn, did.eventsSince.2] at reported
        rcases List.mem_append.mp reported with earlier | now
        · exact all _ before completion earlier
        · exact new rfl proceeds completion now
  | advance | change => exact all visit isVisit completion reported

/-- All reports of a run give latencies, but for those on handlers that state overlong seconds. -/
theorem reports_run {kept : Completion → Prop} {actions : List (Action σ)}
    (inTime : (lobby.run plan actions).gate.time < greatestSpan)
    (ofLatency : ∀ completion, completion.latency.IsLatency → kept completion)
    (ofOverlong : ∀ number ending completion, .meet number (.finished ending) ∈ actions →
      ending.Overstates → completion.latency = .infinite false → kept completion)
    (all : ∀ visit ∈ lobby.visits, ∀ completion ∈ visit.reports, kept completion) :
    ∀ visit ∈ (lobby.run plan actions).visits, ∀ completion ∈ visit.reports, kept completion := by
  induction actions generalizing lobby with
  | nil => exact all
  | cons action actions inductionHypothesis =>
      refine inductionHypothesis inTime
        (fun number ending completion member =>
          ofOverlong number ending completion (List.mem_cons_of_mem _ member))
        (reports_act all ?_)
      rintro number incident stage next starts reports rfl proceeds completion reported
      have before : lobby.gate.time < greatestSpan :=
        Nat.lt_of_le_of_lt (lobby.time_le_run (.meet number incident :: actions)) inTime
      rcases proceeds.latency before reported with isLatency | ⟨infinite, ending, rfl, overstates⟩
      · exact ofLatency completion isLatency
      · exact ofOverlong number ending completion List.mem_cons_self overstates infinite

end Lobby

end Reports

/-- The latencies that a gate reports, whatever the requests, their handlers and the backend do, and
however long that takes. Each is a whole number of milliseconds, finite and not negative, which a
request line may state as it is; only when a handler states a number of seconds whose thousandfold
lies past the finite values, infinity is reported. So it is with whatever the gate reports next: the
report on a handler gives a latency exactly if the handler does not overstate, and the report on a
request that is dropped always does. -/
theorem latencies_reported {σ : Type} (plan : Plan) (gate : Gate σ)
    (actions : List (Lobby.Action σ)) :
    let lobby := ({ gate } : Lobby σ).run plan actions
    lobby.gate.time < greatestSpan →
    (∀ visit ∈ lobby.visits, ∀ completion ∈ visit.reports,
        completion.latency.IsLatency
          ∨ completion.latency = .infinite false
            ∧ ∃ number ending, .meet number (.finished ending) ∈ actions ∧ ending.Overstates)
      ∧ ∀ passage,
          (∀ ending,
            ((lobby.gate.completion passage ending).latency.IsLatency ↔ ¬ ending.Overstates)
              ∧ (ending.Overstates →
                (lobby.gate.completion passage ending).latency = .infinite false))
            ∧ (lobby.gate.droppedCompletion passage).latency.IsLatency := by
  intro lobby inTime
  refine ⟨?_, fun passage => ?_⟩
  · refine Lobby.reports_run inTime (fun _ => .inl) ?_ (by simp)
    exact fun number ending completion member overstates infinite =>
      .inr ⟨infinite, number, ending, member, overstates⟩
  · have span : lobby.gate.time - passage.start < greatestSpan := by omega
    refine ⟨fun ending => ⟨isLatency_completion_iff span, (latency_completion ending span).2⟩, ?_⟩
    exact isLatency_droppedCompletion span

/-- A request is answered after two seconds, and its response says that it took a quarter of a
second. -/
theorem latencies_reported_of_quarter :
    let plan : Plan := ⟨{ enabled := true }, Classifier.failing "broken"⟩
    let verdict : Verdict := ⟨true, some 4, some 1, false, true⟩
    let response : Http.Response := ⟨200, [("x-runtime".toList, Text.encode "0.25".toList)], []⟩
    let actions : List (Lobby.Action Unit) :=
      [.come ⟨"/".toList, []⟩, .meet 0 (.decided verdict),
        .advance (2 * Settings.nanosecondsPerSecond), .meet 0 (.finished (.responded response))]
    let lobby := ({ gate := { backend := () } } : Lobby Unit).run plan actions
    lobby.gate.time < greatestSpan
      ∧ lobby.visits.map Visit.reports = [[⟨200, .ofNat 250, true⟩]]
      ∧ (Binary64.ofNat 250).IsLatency := by
  intro plan verdict response actions lobby
  have inTime : lobby.gate.time < greatestSpan := by decide
  have reports : lobby.visits.map Visit.reports = [[⟨200, .ofNat 250, true⟩]] := by decide +kernel
  refine ⟨inTime, reports, ?_⟩
  have member : [⟨200, .ofNat 250, true⟩] ∈ lobby.visits.map Visit.reports := by
    rw [reports]
    exact List.mem_singleton_self _
  obtain ⟨visit, isVisit, reported⟩ := List.mem_map.mp member
  obtain ⟨usable, _⟩ := latencies_reported plan { backend := () } actions inTime
  have latency := usable visit isVisit ⟨200, .ofNat 250, true⟩ (by simp [reported])
  dsimp only at latency
  have finite : (Binary64.ofNat 250).isFinite = true := by decide +kernel
  refine latency.resolve_right ?_
  rintro ⟨infinite, _⟩
  rw [infinite] at finite
  cases finite

/-- If the response says that it took `1e306` seconds, which is a finite number, infinity is
reported. No request line may state that. -/
theorem reports_infinite_of_overlong :
    let plan : Plan := ⟨{ enabled := true }, Classifier.failing "broken"⟩
    let verdict : Verdict := ⟨true, some 4, some 1, false, true⟩
    let response : Http.Response := ⟨200, [("x-runtime".toList, Text.encode "1e306".toList)], []⟩
    let actions : List (Lobby.Action Unit) :=
      [.come ⟨"/".toList, []⟩, .meet 0 (.decided verdict), .meet 0 (.finished (.responded response))]
    let lobby := ({ gate := { backend := () } } : Lobby Unit).run plan actions
    lobby.visits.map Visit.reports = [[⟨200, .infinite false, true⟩]]
      ∧ ¬ (Binary64.infinite false).IsLatency
      ∧ read? "inf".toList = some (.infinite false)
      ∧ Request.parse "COMPLETE rtt_ms=inf\n".toList = .error (.unusableLatency (.infinite false)) := by
  intro plan verdict response actions lobby
  exact ⟨by decide +kernel, not_isLatency_infinite false, by decide +kernel, by decide +kernel⟩

end Gate

end AdmissionControl
