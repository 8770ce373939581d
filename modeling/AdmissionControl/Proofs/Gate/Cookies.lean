import AdmissionControl.Gate.Classifier
import AdmissionControl.Proofs.Text.Pieces
import Mathlib.Logic.Relation

/-!
# Visitors by their cookies

A cookie with the wanted name and some value counts wherever it stands, as long as no header before
it is unreadable. So where all headers can be read, their order and their division do not matter,
and more cookies never make a visitor anonymous.
-/

namespace AdmissionControl

open Text Wire

/-- The bytes are visible ASCII, blanks and tabs. -/
def Http.IsVisible (value : Http.Value) : Prop := ∀ byte ∈ value, byte = 9 ∨ 32 ≤ byte ∧ byte < 127

instance (value : Http.Value) : Decidable (Http.IsVisible value) := List.decidableBAll _ value

/-- What stands between the cookies of a header. -/
def Http.semicolon : UInt8 := 59

/-- The blank that clients put after a semicolon. -/
def Http.space : UInt8 := 32

/-- The text of a header value, a character for each byte. -/
def Http.textOf (value : Http.Value) : List Char := value.map fun byte => Char.ofNat byte.toNat

namespace Classifier

/-- Some piece between semicolons is, without the blanks around it, the name, an equals sign and a
value that is not empty. The name ends before the first equals sign. -/
def HasCookie (name header : List Char) : Prop :=
  ∃ piece value : List Char, IsPiece ';' piece header ∧ value ≠ [] ∧ '=' ∉ name
    ∧ Trims piece (name ++ '=' :: value)

/-- Some header holds the cookie, and it and all headers before it can be read. -/
def Recognizes (name : List Char) (cookies : List Http.Value) : Prop :=
  ∃ before value after, cookies = before ++ value :: after
    ∧ (∀ earlier ∈ before, Http.IsVisible earlier) ∧ Http.IsVisible value
    ∧ HasCookie name (Http.textOf value)

section Headers

variable {name header : List Char} {value : Http.Value}

theorem isCookie_iff {piece : List Char} :
    isCookie name piece = true
      ↔ ∃ value : List Char, value ≠ [] ∧ '=' ∉ name ∧ Trims piece (name ++ '=' :: value) := by
  simp only [← trim_eq_iff]
  unfold isCookie
  constructor
  · intro counts
    cases sides : cut? '=' (trim piece) with
    | none => simp [sides] at counts
    | some field =>
        obtain ⟨eq, absent⟩ := eq_append_of_cut? sides
        simp only [sides, Bool.and_eq_true, decide_eq_true_eq, Bool.not_eq_true',
          List.isEmpty_eq_false_iff] at counts
        obtain ⟨rfl, nonempty⟩ := counts
        exact ⟨field.2, nonempty, absent, eq⟩
  · rintro ⟨value, nonempty, absent, eq⟩
    simp [eq, cut?_append absent, nonempty]

theorem holdsCookie_iff : holdsCookie name header = true ↔ HasCookie name header := by
  simp only [holdsCookie, List.any_eq_true, mem_splitOn_iff, isCookie_iff, HasCookie,
    exists_and_left]

theorem readVisible?_of_isVisible (visible : Http.IsVisible value) :
    Http.readVisible? value = some (Http.textOf value) := by
  refine if_pos (List.all_eq_true.mpr fun byte member => ?_)
  simpa [Http.isVisibleByte] using visible byte member

theorem readVisible?_of_not_isVisible (invisible : ¬ Http.IsVisible value) :
    Http.readVisible? value = none := by
  refine if_neg fun all => invisible fun byte member => ?_
  simpa [Http.isVisibleByte] using List.all_eq_true.mp all byte member

/-- The cookie is recognized in the first header, or that can be read and it is in a later one. -/
theorem recognizes_cons_iff {first : Http.Value} {rest : List Http.Value} :
    Recognizes name (first :: rest)
      ↔ Http.IsVisible first ∧ (HasCookie name (Http.textOf first) ∨ Recognizes name rest) := by
  constructor
  · rintro ⟨before, value, after, split, visibleBefore, visible, has⟩
    cases before with
    | nil =>
        cases split
        exact ⟨visible, .inl has⟩
    | cons _ others =>
        cases split
        obtain ⟨visibleFirst, visibleOthers⟩ := List.forall_mem_cons.mp visibleBefore
        exact ⟨visibleFirst, .inr ⟨others, value, after, rfl, visibleOthers, visible, has⟩⟩
  · rintro ⟨visibleFirst, has | ⟨before, value, after, rfl, visibleBefore, visible, has⟩⟩
    · exact ⟨[], first, rest, rfl, List.forall_mem_nil _, visibleFirst, has⟩
    · exact ⟨first :: before, value, after, rfl,
        List.forall_mem_cons.mpr ⟨visibleFirst, visibleBefore⟩, visible, has⟩

theorem not_recognizes_nil : ¬ Recognizes name [] := by
  rintro ⟨before, value, after, split, _⟩
  exact absurd split (by simp)

/-- Going through headers finds the cookie, or stops at the first that cannot be read. -/
theorem findCookie_spec (name : List Char) (cookies : List Http.Value) :
    (Recognizes name cookies ∧ findCookie name cookies = .ok .authenticated)
      ∨ (¬ Recognizes name cookies ∧ (∃ value ∈ cookies, ¬ Http.IsVisible value)
          ∧ findCookie name cookies = .error .invisibleCookie)
      ∨ (¬ Recognizes name cookies ∧ (∀ value ∈ cookies, Http.IsVisible value)
          ∧ findCookie name cookies = .ok .anonymous) := by
  induction cookies with
  | nil => exact .inr (.inr ⟨not_recognizes_nil, List.forall_mem_nil _, rfl⟩)
  | cons first rest inductionHypothesis =>
      rw [recognizes_cons_iff, findCookie]
      by_cases visible : Http.IsVisible first
      · rw [readVisible?_of_isVisible visible]
        by_cases has : HasCookie name (Http.textOf first)
        · simp [visible, has, holdsCookie_iff.mpr has]
        · have passed : holdsCookie name (Http.textOf first) = false := by
            simpa using mt holdsCookie_iff.mp has
          simpa [visible, has, passed] using inductionHypothesis
      · rw [readVisible?_of_not_isVisible visible]
        simp [visible]

/-- Where all headers can be read, the cookie may be in any of them. -/
theorem recognizes_iff_of_visible {cookies : List Http.Value}
    (visible : ∀ value ∈ cookies, Http.IsVisible value) :
    Recognizes name cookies ↔ ∃ value ∈ cookies, HasCookie name (Http.textOf value) := by
  induction cookies with
  | nil => simp [not_recognizes_nil]
  | cons first rest inductionHypothesis =>
      obtain ⟨visibleFirst, visibleRest⟩ := List.forall_mem_cons.mp visible
      rw [recognizes_cons_iff, inductionHypothesis visibleRest]
      simp [visibleFirst]

theorem exists_hasCookie_of_recognizes {cookies : List Http.Value}
    (recognizes : Recognizes name cookies) :
    ∃ value ∈ cookies, HasCookie name (Http.textOf value) := by
  obtain ⟨before, value, after, rfl, _, _, has⟩ := recognizes
  exact ⟨value, List.mem_append_right _ List.mem_cons_self, has⟩

end Headers

/-! ## Headers that are divided in another way -/

section Division

variable {name : List Char}

theorem not_hasCookie_nil : ¬ HasCookie name [] := by
  simp [← holdsCookie_iff, holdsCookie, isCookie, trim, trimEnd, dropEndWhile, cut?]

theorem hasCookie_append_iff {left right : List Char} :
    HasCookie name (left ++ ';' :: right) ↔ HasCookie name left ∨ HasCookie name right := by
  simp only [← holdsCookie_iff, holdsCookie, List.splitOn_append_cons_self, List.any_append,
    Bool.or_eq_true]

/-- A blank at the start of a header belongs to no cookie. -/
theorem hasCookie_blank_cons (header : List Char) :
    HasCookie name (' ' :: header) ↔ HasCookie name header := by
  have skips (piece : List Char) : isCookie name (' ' :: piece) = isCookie name piece := by
    rw [isCookie, trim_blank_cons rfl, ← isCookie]
  have divided : (' ' :: header).splitOn ';' = (header.splitOn ';').modifyHead (' ' :: ·) :=
    List.splitOnP_cons_eq_if_modifyHead ..
  rw [← holdsCookie_iff, ← holdsCookie_iff, holdsCookie, holdsCookie, divided]
  cases header.splitOn ';' with
  | nil => rfl
  | cons first rest => rw [List.modifyHead_cons, List.any_cons, List.any_cons, skips]

/-- A header value has the property when something between semicolons of it has, and a space at its
start does not matter. -/
structure IsPiecewise (property : Http.Value → Prop) : Prop where
  nil : ¬ property []
  append_iff (left right : Http.Value) :
    property (left ++ Http.semicolon :: right) ↔ property left ∨ property right
  space_cons_iff (value : Http.Value) : property (Http.space :: value) ↔ property value

theorem isPiecewise_hasCookie (name : List Char) :
    IsPiecewise fun value => HasCookie name (Http.textOf value) where
  nil := not_hasCookie_nil
  append_iff left right := by
    rw [Http.textOf, List.map_append, List.map_cons]
    exact hasCookie_append_iff
  space_cons_iff value := hasCookie_blank_cons (Http.textOf value)

theorem isPiecewise_not_isVisible : IsPiecewise fun value => ¬ Http.IsVisible value where
  nil := not_not_intro (List.forall_mem_nil _)
  append_iff left right := by
    rw [← not_and_or, not_iff_not, Http.IsVisible, List.forall_mem_append, List.forall_mem_cons]
    exact and_congr_right' (and_iff_right (by decide))
  space_cons_iff value := by
    rw [not_iff_not, Http.IsVisible, List.forall_mem_cons]
    exact and_iff_right (by decide)

/-- The same cookies in headers that stand in another order or are divided in another way. -/
inductive Rearranged : List Http.Value → List Http.Value → Prop
  | permuted {before after : List Http.Value} (permutes : before.Perm after) :
      Rearranged before after
  /-- A header is split at semicolons. -/
  | split (front group back : List Http.Value) :
      Rearranged (front ++ [Http.semicolon].intercalate group :: back) (front ++ group ++ back)
  /-- Headers next to each other are joined into one. -/
  | joined (front group back : List Http.Value) :
      Rearranged (front ++ group ++ back)
        (front ++ [Http.semicolon, Http.space].intercalate group :: back)

/-- More cookies than before, in a header of their own or in one that was there. -/
inductive Added : List Http.Value → List Http.Value → Prop
  | apart (front back : List Http.Value) (header : Http.Value) :
      Added (front ++ back) (front ++ header :: back)
  /-- At its start, at its end, or between two semicolons of it. -/
  | within (front back before after : List Http.Value) (cookies : Http.Value) :
      Added (front ++ [Http.semicolon].intercalate (before ++ after) :: back)
        (front ++ [Http.semicolon].intercalate (before ++ cookies :: after) :: back)

theorem IsPiecewise.intercalate_iff {property : Http.Value → Prop} {separator : Http.Value}
    (piecewise : IsPiecewise property)
    (separates : separator = [Http.semicolon] ∨ separator = [Http.semicolon, Http.space])
    (group : List Http.Value) :
    property (separator.intercalate group) ↔ ∃ value ∈ group, property value := by
  have append_iff (left right : Http.Value) :
      property (left ++ separator ++ right) ↔ property left ∨ property right := by
    rcases separates with rfl | rfl
    · simpa using piecewise.append_iff left right
    · simpa [piecewise.space_cons_iff] using piecewise.append_iff left (Http.space :: right)
  induction group with
  | nil => simp [List.intercalate_nil, piecewise.nil]
  | cons first others inductionHypothesis =>
      cases others with
      | nil => simp [List.intercalate_singleton]
      | cons second rest =>
          rw [List.intercalate_cons_cons, append_iff]
          simp only [List.mem_cons (b := first), exists_eq_or_imp]
          exact or_congr_right inductionHypothesis

/-- Another order or division of headers keeps the properties of their pieces. -/
theorem IsPiecewise.rearranged {property : Http.Value → Prop} (piecewise : IsPiecewise property)
    {before after : List Http.Value} (rearranged : Rearranged before after) :
    (∃ value ∈ before, property value) ↔ ∃ value ∈ after, property value := by
  cases rearranged with
  | permuted permutes => simp only [permutes.mem_iff]
  | split front group back =>
      simp [or_and_right, exists_or, piecewise.intercalate_iff (.inl rfl)]
  | joined front group back =>
      simp [or_and_right, exists_or, piecewise.intercalate_iff (.inr rfl)]

/-- What a piece has stays when cookies are added. -/
theorem IsPiecewise.added {property : Http.Value → Prop} (piecewise : IsPiecewise property)
    {before after : List Http.Value} (added : Added before after) :
    (∃ value ∈ before, property value) → ∃ value ∈ after, property value := by
  cases added with
  | apart front back header =>
      rintro ⟨value, member, holds⟩
      exact ⟨value, ((List.sublist_cons_self header back).append_left front).subset member, holds⟩
  | within front back before after cookies =>
      rintro ⟨value, member, holds⟩
      rcases List.mem_append.mp member with inFront | others
      · exact ⟨value, List.mem_append_left _ inFront, holds⟩
      rcases List.mem_cons.mp others with rfl | inBack
      · refine ⟨_, List.mem_append_right _ List.mem_cons_self, ?_⟩
        obtain ⟨piece, isPiece, has⟩ := (piecewise.intercalate_iff (.inl rfl) _).mp holds
        have stays := ((List.sublist_cons_self cookies after).append_left before).subset isPiece
        exact (piecewise.intercalate_iff (.inl rfl) _).mpr ⟨piece, stays, has⟩
      · exact ⟨value, List.mem_append_right _ (List.mem_cons_of_mem _ inBack), holds⟩

/-- Going from list to list of headers in steps that keep a property both ways keeps it. -/
theorem IsPiecewise.eqvGen_rearranged {property : Http.Value → Prop}
    (piecewise : IsPiecewise property) {before after : List Http.Value}
    (rearranged : Relation.EqvGen Rearranged before after) :
    (∃ value ∈ before, property value) ↔ ∃ value ∈ after, property value := by
  induction rearranged with
  | rel _ _ step => exact piecewise.rearranged step
  | refl _ => rfl
  | symm _ _ _ inductionHypothesis => exact inductionHypothesis.symm
  | trans _ _ _ _ _ first second => exact first.trans second

theorem IsPiecewise.reflTransGen_added {property : Http.Value → Prop}
    (piecewise : IsPiecewise property) {before after : List Http.Value}
    (added : Relation.ReflTransGen Added before after)
    (holds : ∃ value ∈ before, property value) : ∃ value ∈ after, property value := by
  induction added with
  | refl => exact holds
  | tail _ step inductionHypothesis => exact piecewise.added step inductionHypothesis

end Division

section Classification

variable {name : List Char} {request : Http.Request}

theorem cookie_eq_authenticated_iff :
    cookie name request = .ok .authenticated ↔ Recognizes name request.cookies := by
  obtain ⟨recognizes, eq⟩ | ⟨fails, -, eq⟩ | ⟨fails, -, eq⟩ := findCookie_spec name request.cookies
  · exact iff_of_true eq recognizes
  · exact iff_of_false (by simp [cookie, eq]) fails
  · exact iff_of_false (by simp [cookie, eq]) fails

theorem cookie_eq_error_iff :
    cookie name request = .error .invisibleCookie
      ↔ ¬ Recognizes name request.cookies ∧ ∃ value ∈ request.cookies, ¬ Http.IsVisible value := by
  obtain ⟨recognizes, eq⟩ | ⟨fails, unread, eq⟩ | ⟨fails, visible, eq⟩ :=
    findCookie_spec name request.cookies
  · exact iff_of_false (by simp [cookie, eq]) fun stops => stops.1 recognizes
  · exact iff_of_true eq ⟨fails, unread⟩
  · refine iff_of_false (by simp [cookie, eq]) ?_
    rintro ⟨-, value, member, invisible⟩
    exact invisible (visible value member)

theorem cookie_eq_anonymous_iff :
    cookie name request = .ok .anonymous
      ↔ ¬ Recognizes name request.cookies ∧ ∀ value ∈ request.cookies, Http.IsVisible value := by
  obtain ⟨recognizes, eq⟩ | ⟨fails, ⟨value, member, invisible⟩, eq⟩ | ⟨fails, visible, eq⟩ :=
    findCookie_spec name request.cookies
  · exact iff_of_false (by simp [cookie, eq]) fun passes => passes.1 recognizes
  · exact iff_of_false (by simp [cookie, eq]) fun passes => invisible (passes.2 value member)
  · exact iff_of_true eq ⟨fails, visible⟩

/-- The order and the division of headers that can all be read do not matter. -/
theorem cookie_of_rearranged {cookies : List Http.Value}
    (visible : ∀ value ∈ request.cookies, Http.IsVisible value)
    (rearranged : Relation.EqvGen Rearranged request.cookies cookies) :
    cookie name { request with cookies } = cookie name request := by
  have visible' : ∀ value ∈ cookies, Http.IsVisible value := by
    have same := isPiecewise_not_isVisible.eqvGen_rearranged rearranged
    simpa using (not_congr same).mp (by simpa using visible)
  have same : Recognizes name cookies ↔ Recognizes name request.cookies := by
    rw [recognizes_iff_of_visible visible, recognizes_iff_of_visible visible']
    exact ((isPiecewise_hasCookie name).eqvGen_rearranged rearranged).symm
  by_cases recognizes : Recognizes name request.cookies
  · rw [cookie_eq_authenticated_iff.mpr recognizes]
    exact cookie_eq_authenticated_iff.mpr (same.mpr recognizes)
  · rw [cookie_eq_anonymous_iff.mpr ⟨recognizes, visible⟩]
    exact cookie_eq_anonymous_iff.mpr ⟨mt same.mp recognizes, visible'⟩

/-- A visitor stays recognized with more cookies, if all headers can be read. -/
theorem recognizes_of_added {cookies : List Http.Value}
    (recognizes : Recognizes name request.cookies)
    (added : Relation.ReflTransGen Added request.cookies cookies)
    (visible : ∀ value ∈ cookies, Http.IsVisible value) : Recognizes name cookies :=
  (recognizes_iff_of_visible visible).mpr
    ((isPiecewise_hasCookie name).reflTransGen_added added
      (exists_hasCookie_of_recognizes recognizes))

/-- Authenticated is a visitor exactly with the cookie in a header that can be read, as can all
before it. An error is all else with a header that cannot be read. -/
theorem cookie_classifies (name : List Char) (request : Http.Request) :
    (cookie name request = .ok .authenticated ↔ Recognizes name request.cookies)
      ∧ (cookie name request = .error .invisibleCookie
          ↔ ¬ Recognizes name request.cookies ∧ ∃ value ∈ request.cookies, ¬ Http.IsVisible value)
      ∧ (cookie name request = .ok .anonymous
          ↔ ¬ Recognizes name request.cookies ∧ ∀ value ∈ request.cookies, Http.IsVisible value)
      ∧ (∀ cookies, (∀ value ∈ request.cookies, Http.IsVisible value) →
          Relation.EqvGen Rearranged request.cookies cookies →
          cookie name { request with cookies } = cookie name request)
      ∧ ∀ cookies, cookie name request = .ok .authenticated →
          Relation.ReflTransGen Added request.cookies cookies →
          cookie name { request with cookies } ≠ .ok .anonymous
            ∧ ((∀ value ∈ cookies, Http.IsVisible value) →
                cookie name { request with cookies } = .ok .authenticated) := by
  refine ⟨cookie_eq_authenticated_iff, cookie_eq_error_iff, cookie_eq_anonymous_iff,
    fun cookies => cookie_of_rearranged, fun cookies authenticated added => ?_⟩
  have stays := recognizes_of_added (cookie_eq_authenticated_iff.mp authenticated) added
  refine ⟨fun anonymous => ?_, fun visible => cookie_eq_authenticated_iff.mpr (stays visible)⟩
  obtain ⟨unrecognized, visible⟩ := cookie_eq_anonymous_iff.mp anonymous
  exact unrecognized (stays visible)

theorem cookie_classifies_login_after_theme :
    let name := "_t".toList
    let theme := Text.encode "theme=dark".toList
    let login := Text.encode " _t=abc=1".toList
    let request : Http.Request := ⟨"/".toList, [[Http.semicolon].intercalate [theme, login]]⟩
    (∀ value ∈ request.cookies, Http.IsVisible value)
      ∧ cookie name request = .ok .authenticated
      ∧ cookie name { request with cookies := [theme, login] } = .ok .authenticated
      ∧ cookie name { request with cookies := [233] :: request.cookies } ≠ .ok .anonymous := by
  intro name theme login request
  have visible : ∀ value ∈ request.cookies, Http.IsVisible value := by decide
  have authenticated : cookie name request = .ok .authenticated := by decide
  obtain ⟨-, -, -, rearranges, adds⟩ := cookie_classifies name request
  refine ⟨visible, authenticated, ?_, ?_⟩
  · rw [rearranges [theme, login] visible (.rel _ _ (.split [] [theme, login] [])), authenticated]
  · exact (adds _ authenticated (.single (.apart [] request.cookies [233]))).1

end Classification

end Classifier

end AdmissionControl
