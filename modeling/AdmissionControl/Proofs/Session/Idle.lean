import AdmissionControl.Proofs.Session.Reference
import AdmissionControl.Proofs.Wire.Refusals
import AdmissionControl.Proofs.Wire.ReplyCodec

/-!
# Lines that change nothing

A line that is no request, and one that asks for the state, leave the limiter as it is. A sequence of
lines may therefore lose such lines anywhere, and gain others: every line that stays is answered as
before, and the limiter ends in the same state.
-/

namespace AdmissionControl

open Text Wire

/-- The line leaves the limiter alone: it asks for the state, or it is no request. -/
def IsIdle (line : List Char) : Prop :=
  Request.parse line = .ok .stats ∨ ∃ fault, Request.parse line = .error fault

/-- What stands at the places that are kept. -/
def atPlaces {α : Type} (kept : Nat → Bool) : List α → List α
  | [] => []
  | item :: rest =>
      let later := atPlaces (fun place => kept (place + 1)) rest
      if kept 0 then item :: later else later

/-- Only idle lines stand at places that are not kept. -/
def OmitsIdle (kept : Nat → Bool) (lines : List (List Char)) : Prop :=
  ∀ place line, lines[place]? = some line → kept place = false → IsIdle line

section Lines

variable {tuning : Limiter.Tuning} {limiter : Limiter} {line : List Char}

theorem answerLine_of_refused {fault : Fault} (refused : Request.parse line = .error fault) :
    answerLine tuning limiter line = ⟨Reply.unknown, limiter⟩ := by
  rw [answerLine, refused]

theorem answerLine_of_stats (asks : Request.parse line = .ok .stats) :
    answerLine tuning limiter line = ⟨Reply.ofState limiter, limiter⟩ := by
  rw [answerLine, asks]
  rfl

theorem IsIdle.state_answerLine (isIdle : IsIdle line) (tuning : Limiter.Tuning)
    (limiter : Limiter) : (answerLine tuning limiter line).state = limiter := by
  rcases isIdle with asks | ⟨fault, refused⟩
  · rw [answerLine_of_stats asks]
  · rw [answerLine_of_refused refused]

/-- Each line is answered with the limiter that the lines before it left. -/
theorem getElem?_answerLines (limiter : Limiter) (lines : List (List Char)) (place : Nat) :
    (answerLines tuning limiter lines)[place]?
      = lines[place]?.map
          (answerLine tuning
            (lastState limiter (answerLines tuning limiter (lines.take place)))) := by
  induction lines generalizing limiter place with
  | nil => rfl
  | cons first rest inductionHypothesis =>
      cases place with
      | zero => rfl
      | succ place =>
          rw [List.take_succ_cons, lastState_answerLines_cons, answerLines,
            List.getElem?_cons_succ, List.getElem?_cons_succ, inductionHypothesis]

theorem OmitsIdle.tail {kept : Nat → Bool} {first : List Char} {rest : List (List Char)}
    (omits : OmitsIdle kept (first :: rest)) : OmitsIdle (fun place => kept (place + 1)) rest :=
  fun place line found => omits (place + 1) line (by rwa [List.getElem?_cons_succ])

/-- Where idle lines are left out, the others are answered as they were among them. -/
theorem OmitsIdle.answerLines_eq {kept : Nat → Bool} {lines : List (List Char)}
    (omits : OmitsIdle kept lines) (limiter : Limiter) :
    answerLines tuning limiter (atPlaces kept lines)
      = atPlaces kept (answerLines tuning limiter lines) := by
  induction lines generalizing limiter kept with
  | nil => rfl
  | cons first rest inductionHypothesis =>
      cases stays : kept 0 with
      | true =>
          simp only [atPlaces, stays, if_true, answerLines]
          rw [inductionHypothesis omits.tail]
      | false =>
          have unchanged := (omits 0 first rfl stays).state_answerLine tuning limiter
          simp only [atPlaces, stays, Bool.false_eq_true, if_false, answerLines, unchanged]
          exact inductionHypothesis omits.tail limiter

/-- Where idle lines are left out, the limiter ends in the same state. -/
theorem OmitsIdle.lastState_eq {kept : Nat → Bool} {lines : List (List Char)}
    (omits : OmitsIdle kept lines) (limiter : Limiter) :
    lastState limiter (answerLines tuning limiter (atPlaces kept lines))
      = lastState limiter (answerLines tuning limiter lines) := by
  induction lines generalizing limiter kept with
  | nil => rfl
  | cons first rest inductionHypothesis =>
      rw [lastState_answerLines_cons]
      cases stays : kept 0 with
      | true =>
          simp only [atPlaces, stays, if_true]
          rw [lastState_answerLines_cons, inductionHypothesis omits.tail]
      | false =>
          rw [(omits 0 first rfl stays).state_answerLine tuning limiter]
          simp only [atPlaces, stays, Bool.false_eq_true, if_false]
          exact inductionHypothesis omits.tail limiter

end Lines

/-- Idle lines are invisible to all others. A line that is refused is answered as unknown, and one
that asks for the state with the state that the lines before it left; both leave that state. Where
idle lines are left out at any places, each other line is answered as it was, leaving the same state,
and the limiter ends in the same state. So it is with two sequences that have different idle lines
at different places. A line asks for the state exactly if that is its command word, and is refused
exactly if its first token is no command or one of the values that its command is read for is
malformed. So a completion with one malformed value, whatever its other values are, gives no slot
back and takes no sample. -/
theorem idle_lines_are_invisible (tuning : Limiter.Tuning) (limiter : Limiter) :
    (∀ (lines : List (List Char)) (place : Nat) (line : List Char), lines[place]? = some line →
        let current := lastState limiter (answerLines tuning limiter (lines.take place))
        let answer? := (answerLines tuning limiter lines)[place]?
        (∀ fault, Request.parse line = .error fault →
            answer? = some ⟨"ERR unknown\n".toList, current⟩)
          ∧ (Request.parse line = .ok .stats →
              answer? = some ⟨Reply.ofState current, current⟩
                ∧ Reply.readState (trimEnd (Reply.ofState current)) = .ok current))
      ∧ (∀ (lines : List (List Char)) (kept : Nat → Bool), OmitsIdle kept lines →
          let answers := answerLines tuning limiter lines
          let fewer := answerLines tuning limiter (atPlaces kept lines)
          fewer = atPlaces kept answers ∧ lastState limiter fewer = lastState limiter answers)
      ∧ (∀ (left right : List (List Char)) (keptLeft keptRight : Nat → Bool),
          OmitsIdle keptLeft left → OmitsIdle keptRight right →
          atPlaces keptLeft left = atPlaces keptRight right →
          let leftAnswers := answerLines tuning limiter left
          let rightAnswers := answerLines tuning limiter right
          atPlaces keptLeft leftAnswers = atPlaces keptRight rightAnswers
            ∧ lastState limiter leftAnswers = lastState limiter rightAnswers)
      ∧ (∀ (words : List (List Char)) (line : List Char), Spaced words line →
          (Request.parse line = .ok .stats ↔ words.headD [] = "STATS".toList)
            ∧ ((∃ fault, Request.parse line = .error fault)
                ↔ words.headD [] ∉ ["ADMIT".toList, "COMPLETE".toList, "STATS".toList]
                  ∨ ∃ key ∈ relevantKeys (words.headD []), ∃ value,
                      firstValue? key words.tail = some value ∧ isWellFormed key value = false))
      ∧ ∀ (words : List (List Char)) (line : List Char) (key : String) (value : List Char),
          Spaced ("COMPLETE".toList :: words) line → key ∈ ["rtt_ms", "status", "sample"] →
          firstValue? key words = some value → isWellFormed key value = false →
          answerLine tuning limiter line = ⟨"ERR unknown\n".toList, limiter⟩ := by
  refine ⟨fun lines place line found => ?_,
    fun lines kept omits => ⟨omits.answerLines_eq limiter, omits.lastState_eq limiter⟩,
    fun left right keptLeft keptRight ofLeft ofRight same => ?_,
    fun words line spaced => ⟨Request.parse_eq_stats_iff spaced, Request.parse_eq_error_iff spaced⟩,
    fun words line key value spaced isKey first malformed => ?_⟩
  · intro current answer?
    have answered : answer? = some (answerLine tuning current line) := by
      rw [show answer? = _ from getElem?_answerLines limiter lines place, found, Option.map_some]
    constructor
    · intro fault refused
      rw [answered, answerLine_of_refused refused]
      rfl
    · intro asks
      rw [answered, answerLine_of_stats asks]
      exact ⟨rfl, Reply.readState_ofState current⟩
  · intro leftAnswers rightAnswers
    constructor
    · rw [← ofLeft.answerLines_eq limiter, same, ofRight.answerLines_eq limiter]
    · rw [← ofLeft.lastState_eq limiter, same, ofRight.lastState_eq limiter]
  · obtain ⟨fault, refused⟩ :=
      (Request.parse_eq_error_iff spaced).mpr (.inr ⟨key, isKey, value, first, malformed⟩)
    exact answerLine_of_refused refused

/-- A completion whose status is no number stands between an admission and another completion, and
elsewhere a greeting before them. -/
theorem idle_lines_are_invisible_of_malformed :
    let tuning : Limiter.Tuning := { initialLimit := 4, targetMilliseconds := 300 }
    let malformed := "COMPLETE rtt_ms=1000 status=done sample=1".toList
    let left := ["ADMIT kind=user".toList, malformed, "STATS".toList, "COMPLETE rtt_ms=5".toList]
    let right := ["HELLO".toList, "ADMIT kind=user".toList, "COMPLETE rtt_ms=5".toList]
    let keptLeft (place : Nat) : Bool := place ≠ 1 && place ≠ 2
    let keptRight (place : Nat) : Bool := place ≠ 0
    let answers := answerLines tuning (.fresh tuning)
    atPlaces keptLeft left = atPlaces keptRight right
      ∧ atPlaces keptLeft (answers left) = atPlaces keptRight (answers right)
      ∧ (answers left)[1]? = some ⟨"ERR unknown\n".toList, ⟨4, 1, false⟩⟩
      ∧ (answers left)[2]? = some ⟨"limit=4 inflight=1 degraded=0\n".toList, ⟨4, 1, false⟩⟩
      ∧ answerLine tuning ⟨4, 1, false⟩ malformed = ⟨"ERR unknown\n".toList, ⟨4, 1, false⟩⟩ := by
  intro tuning malformed left right keptLeft keptRight answers
  have refused : Request.parse malformed = .error (.malformedField "status" "done".toList) := by
    decide +kernel
  have asks : Request.parse "STATS".toList = .ok .stats := by decide
  have ofLeft : OmitsIdle keptLeft left := by
    intro place line found omitted
    obtain rfl | rfl : place = 1 ∨ place = 2 := by
      simp only [keptLeft, Bool.and_eq_false_iff, decide_eq_false_iff_not] at omitted
      omega
    · cases found
      exact .inr ⟨_, refused⟩
    · cases found
      exact .inl asks
  have ofRight : OmitsIdle keptRight right := by
    intro place line found omitted
    obtain rfl : place = 0 := by simpa [keptRight] using omitted
    cases found
    exact .inr ⟨.unknownCommand "HELLO".toList, by decide +kernel⟩
  obtain ⟨answered, _, alike, _⟩ := idle_lines_are_invisible tuning (.fresh tuning)
  have current : lastState (.fresh tuning) (answerLines tuning (.fresh tuning) (left.take 1))
      = ⟨4, 1, false⟩ := by decide +kernel
  have same : atPlaces keptLeft left = atPlaces keptRight right := by decide
  refine ⟨same, (alike left right keptLeft keptRight ofLeft ofRight same).1, ?_, ?_, ?_⟩
  · rw [← current]
    exact (answered left 1 malformed rfl).1 _ refused
  · have later : lastState (.fresh tuning) (answerLines tuning (.fresh tuning) (left.take 2))
        = ⟨4, 1, false⟩ := by decide +kernel
    obtain ⟨asked, _⟩ := (answered left 2 "STATS".toList rfl).2 asks
    rw [later] at asked
    exact asked
  · have spaced : Spaced ("COMPLETE".toList :: _) malformed := spaced_tokens malformed
    exact (idle_lines_are_invisible tuning ⟨4, 1, false⟩).2.2.2.2 _ malformed "status"
      "done".toList spaced (by decide) (by decide +kernel) (by decide +kernel)

end AdmissionControl
