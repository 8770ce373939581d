import AdmissionControl.Client.Callers
import AdmissionControl.Proofs.Session.Division
import AdmissionControl.Proofs.Text.Words

/-!
# What is due on a channel

The daemon answers whole lines in their order, so what is still to be read on a channel belongs to
the answers from some number on. Nothing that the daemon does changes this number, and reading moves
bytes from what is to come to what was read. What a call writes says how many answers there can be.
-/

namespace AdmissionControl

namespace Client

/-- An answer is one line. -/
def IsAnswer (answer : List UInt8) : Prop :=
  ∃ body, answer = body ++ [Turn.lineFeed] ∧ Turn.lineFeed ∉ body

/-- Bytes with a line feed that begin an answer are all of it. -/
theorem IsAnswer.eq_of_isPrefix {answer front rest : List UInt8} (isAnswer : IsAnswer answer)
    (noFeed : Turn.lineFeed ∉ front) (isPrefix : front ++ Turn.lineFeed :: rest <+: answer) :
    answer = front ++ [Turn.lineFeed] ∧ rest = [] := by
  obtain ⟨body, rfl, bodyNoFeed⟩ := isAnswer
  obtain ⟨more, eq⟩ := isPrefix
  have cutBody := Text.cut?_append bodyNoFeed []
  rw [← eq, List.append_assoc, List.cons_append, Text.cut?_append noFeed] at cutBody
  obtain ⟨rfl, nothing⟩ := Prod.mk.inj (Option.some.inj cutBody)
  exact ⟨rfl, (List.append_eq_nil_iff.mp nothing).1⟩

namespace Channel

/-- The daemon closed the connection within its answers. -/
def IsTorn (channel : Channel) : Prop :=
  ∃ count, channel.cut = some count ∧ count < channel.answers.flatten.length

/-- The answers are lines, there are no more of them than lines were written, and what was read was
sent. -/
structure Sound (channel : Channel) : Prop where
  answered : channel.answers.length ≤ channel.bytes.count Turn.lineFeed
  lines : ∀ answer ∈ channel.answers, IsAnswer answer
  taken : channel.taken ≤ channel.stream.length

/-- These bytes and what is still to be read belong to the answers after the first ones, so many of
them. They are all that was answered, unless the connection was closed within the answers. -/
structure Owes (channel : Channel) (count : Nat) (bytes : List UInt8) : Prop where
  isPrefix : bytes ++ channel.incoming <+: (channel.answers.drop count).flatten
  whole : ¬ channel.IsTorn → count ≤ channel.answers.length
    ∧ bytes ++ channel.incoming = (channel.answers.drop count).flatten

/-- What one channel shows, another one shows too. -/
structure Grows (before after : Channel) : Prop where
  written : before.written <+: after.written
  answers : before.answers <+: after.answers
  torn : before.IsTorn → after.IsTorn

/-- What the daemon can do to a channel. -/
structure Responds (before after : Channel) : Prop where
  written : after.written = before.written
  grows : before.Grows after
  sound : after.Sound
  owes : ∀ {count bytes}, before.Owes count bytes → after.Owes count bytes
  atEnd : before.isAtEnd = true → after = before

variable {channel : Channel}

theorem Grows.refl (channel : Channel) : channel.Grows channel :=
  ⟨List.prefix_rfl, List.prefix_rfl, id⟩

theorem sound_empty : ({} : Channel).Sound := ⟨Nat.le_refl 0, nofun, Nat.le_refl 0⟩

/-- Nothing is due on a new channel. -/
theorem owes_empty : ({} : Channel).Owes 0 [] := ⟨List.prefix_rfl, fun _ => ⟨Nat.le_refl 0, rfl⟩⟩

section Daemon

theorem not_isTorn_of_open (isOpen : channel.cut = none) : ¬ channel.IsTorn := by
  rintro ⟨count, cut, _⟩
  cases isOpen.symm.trans cut

theorem stream_of_open (isOpen : channel.cut = none) :
    channel.stream = channel.answers.flatten := by
  rw [stream, isOpen]

/-- A closed channel that was not cut off within the answers carries all of them. -/
theorem stream_of_not_isTorn (whole : ¬ channel.IsTorn) :
    channel.stream = channel.answers.flatten := by
  cases cut : channel.cut with
  | none => exact stream_of_open cut
  | some count =>
      have long : channel.answers.flatten.length ≤ count :=
        Nat.le_of_not_lt fun short => whole ⟨count, cut, short⟩
      rw [stream, cut]
      exact List.take_of_length_le long

theorem incoming_of_isAtEnd (ended : channel.isAtEnd = true) : channel.incoming = [] := by
  rw [isAtEnd, Bool.and_eq_true, List.isEmpty_iff] at ended
  exact ended.2

theorem responds_refl (sound : channel.Sound) : channel.Responds channel :=
  ⟨rfl, .refl channel, sound, id, fun _ => rfl⟩

/-- An answer is due after all earlier ones. -/
theorem responds_answer (sound : channel.Sound) (body : List UInt8) :
    channel.Responds (channel.answer body) := by
  by_cases can : (channel.cut.isNone && channel.answers.length < channel.bytes.count 10
      && !body.contains 10) = true
  · rw [answer, if_pos can]
    simp only [Bool.and_eq_true, Option.isNone_iff_eq_none, decide_eq_true_eq, Bool.not_eq_true',
      List.contains_eq_mem, decide_eq_false_iff_not] at can
    obtain ⟨⟨isOpen, waits⟩, noFeed⟩ := can
    have opened : ({ channel with answers := channel.answers ++ [body ++ [10]] } : Channel).cut
        = none := isOpen
    have stream : ({ channel with answers := channel.answers ++ [body ++ [10]] } : Channel).stream
        = channel.stream ++ (body ++ [10]) := by
      rw [stream_of_open opened, stream_of_open isOpen]
      exact List.flatten_concat
    have incoming :
        ({ channel with answers := channel.answers ++ [body ++ [10]] } : Channel).incoming
          = channel.incoming ++ (body ++ [10]) := by
      rw [Channel.incoming, stream, Channel.incoming]
      exact List.drop_append_of_le_length sound.taken
    refine ⟨rfl, ⟨List.prefix_rfl, List.prefix_append _ _, fun torn =>
      absurd torn (not_isTorn_of_open isOpen)⟩, ⟨?_, ?_, ?_⟩, ?_, ?_⟩
    · rw [List.length_append]
      exact waits
    · intro answer member
      rcases List.mem_append.mp member with earlier | last
      · exact sound.lines answer earlier
      · exact ⟨body, List.mem_singleton.mp last, noFeed⟩
    · rw [stream, List.length_append]
      exact Nat.le_add_right_of_le sound.taken
    · intro count bytes owes
      obtain ⟨counted, whole⟩ := owes.whole (not_isTorn_of_open isOpen)
      have due : bytes ++ (channel.incoming ++ (body ++ [10]))
          = ((channel.answers ++ [body ++ [10]]).drop count).flatten := by
        rw [List.drop_append_of_le_length counted, List.flatten_concat, ← whole, List.append_assoc]
      refine ⟨?_, fun _ => ⟨?_, ?_⟩⟩
      · exact incoming ▸ due ▸ List.prefix_rfl
      · rw [List.length_append]
        exact Nat.le_add_right_of_le counted
      · rw [incoming, due]
    · intro ended
      rw [isAtEnd, isOpen] at ended
      cases ended
  · rw [answer, if_neg can]
    exact responds_refl sound

/-- Closing a connection adds nothing to what is due. -/
theorem responds_close (sound : channel.Sound) (count : Nat) :
    channel.Responds (channel.close count) := by
  by_cases can : (channel.cut.isNone && channel.taken ≤ count) = true
  · rw [close, if_pos can]
    simp only [Bool.and_eq_true, Option.isNone_iff_eq_none, decide_eq_true_eq] at can
    obtain ⟨isOpen, later⟩ := can
    have stream : ({ channel with cut := some count } : Channel).stream
        = channel.stream.take count := by
      rw [stream_of_open isOpen]
      rfl
    refine ⟨rfl, ⟨List.prefix_rfl, List.prefix_rfl, fun torn =>
      absurd torn (not_isTorn_of_open isOpen)⟩, ⟨sound.answered, sound.lines, ?_⟩, ?_, ?_⟩
    · rw [stream, List.length_take]
      exact Nat.le_min.mpr ⟨later, sound.taken⟩
    · intro first bytes owes
      obtain ⟨counted, whole⟩ := owes.whole (not_isTorn_of_open isOpen)
      refine ⟨?_, fun notTorn => ⟨counted, ?_⟩⟩
      · refine List.IsPrefix.trans ?_ owes.isPrefix
        rw [List.prefix_append_right_inj, Channel.incoming, stream, List.drop_take]
        exact List.take_prefix _ _
      · have same : ({ channel with cut := some count } : Channel).stream = channel.stream :=
          (stream_of_not_isTorn notTorn).trans (stream_of_open isOpen).symm
        rw [Channel.incoming, same]
        exact whole
    · intro ended
      rw [isAtEnd, isOpen] at ended
      cases ended
  · rw [close, if_neg can]
    exact responds_refl sound

end Daemon

section Reading

/-- Reading takes what comes next. -/
theorem incoming_take (channel : Channel) (count : Nat) :
    channel.incoming.take count ++ (channel.take count).incoming = channel.incoming := by
  have later : (channel.take count).incoming
      = channel.incoming.drop (channel.incoming.take count).length := by
    change channel.stream.drop (channel.taken + (channel.incoming.take count).length) = _
    rw [← List.drop_drop]
    rfl
  rw [later]
  exact List.prefix_iff_eq_append.mp (List.take_prefix count channel.incoming)

theorem sound_take (sound : channel.Sound) (count : Nat) : (channel.take count).Sound := by
  refine ⟨sound.answered, sound.lines, ?_⟩
  have bounded : (channel.incoming.take count).length ≤ channel.stream.length - channel.taken := by
    rw [← List.length_drop]
    exact List.length_take_le' _ _
  have within := sound.taken
  change channel.taken + (channel.incoming.take count).length ≤ channel.stream.length
  omega

theorem grows_take (channel : Channel) (count : Nat) : channel.Grows (channel.take count) :=
  ⟨List.prefix_rfl, List.prefix_rfl, id⟩

/-- What is read goes from what is to come to what was read. -/
theorem Owes.take {first : Nat} {bytes : List UInt8} (owes : channel.Owes first bytes)
    (count : Nat) :
    (channel.take count).Owes first (bytes ++ channel.incoming.take count) := by
  have same : bytes ++ channel.incoming.take count ++ (channel.take count).incoming
      = bytes ++ channel.incoming := by
    rw [List.append_assoc, incoming_take]
  refine ⟨same ▸ owes.isPrefix, fun whole => ⟨(owes.whole whole).1, ?_⟩⟩
  rw [same]
  exact (owes.whole whole).2

/-- A channel on which nothing can come owes nothing more, whatever was answered. -/
theorem Owes.of_incoming {first : Nat} (nothing : channel.incoming = [])
    (counted : ¬ channel.IsTorn → channel.answers.length = first) : channel.Owes first [] := by
  refine ⟨by simp [nothing], fun whole => ⟨Nat.le_of_eq (counted whole).symm, ?_⟩⟩
  rw [nothing, ← counted whole, List.drop_length]
  rfl

/-- While at most one answer is due, what is read belongs to it. -/
theorem Owes.exists_answer {first : Nat} {bytes : List UInt8} (owes : channel.Owes first bytes)
    (few : channel.answers.length ≤ first + 1) (nonempty : bytes ≠ []) :
    ∃ answer, channel.answers[first]? = some answer ∧ first + 1 = channel.answers.length
      ∧ bytes ++ channel.incoming <+: answer
      ∧ (¬ channel.IsTorn → bytes ++ channel.incoming = answer) := by
  by_cases answered : first < channel.answers.length
  · have single : (channel.answers.drop first).flatten = channel.answers[first] := by
      rw [List.drop_eq_getElem_cons answered, List.drop_of_length_le few]
      simp
    refine ⟨_, List.getElem?_eq_getElem answered, Nat.le_antisymm answered few, ?_, ?_⟩
    · rw [← single]
      exact owes.isPrefix
    · intro whole
      rw [← single]
      exact (owes.whole whole).2
  · have nothing := owes.isPrefix
    rw [List.drop_of_length_le (Nat.le_of_not_lt answered)] at nothing
    exact absurd (List.append_eq_nil_iff.mp (List.prefix_nil.mp nothing)).1 nonempty

end Reading

section Writing

theorem sound_write (sound : channel.Sound) (caller : Nat) (bytes : List UInt8) :
    (channel.write caller bytes).Sound := by
  refine ⟨Nat.le_trans sound.answered ?_, sound.lines, sound.taken⟩
  rw [Channel.bytes, Channel.bytes, write, List.map_append, List.count_append]
  exact Nat.le_add_right _ _

theorem grows_write (channel : Channel) (caller : Nat) (bytes : List UInt8) :
    channel.Grows (channel.write caller bytes) :=
  ⟨List.prefix_append _ _, List.prefix_rfl, id⟩

theorem Owes.write {first : Nat} {read : List UInt8} (owes : channel.Owes first read) (caller : Nat)
    (bytes : List UInt8) : (channel.write caller bytes).Owes first read :=
  ⟨owes.isPrefix, owes.whole⟩

end Writing

end Channel

section Written

/-- The bytes that a call has put on connections. -/
def writtenBy (channels : List Channel) (caller : Nat) : List UInt8 :=
  channels.flatMap fun channel => (channel.written.filter (·.1 = caller)).map Prod.snd

variable {channels : List Channel}

/-- What a call has written depends on what was written on each connection alone. -/
theorem writtenBy_congr {after : List Channel}
    (same : after.map Channel.written = channels.map Channel.written) :
    writtenBy after = writtenBy channels := by
  funext caller
  have regrouped (list : List Channel) : writtenBy list caller
      = (list.map Channel.written).flatMap fun written =>
          (written.filter (·.1 = caller)).map Prod.snd := by
    rw [List.flatMap_map]
    rfl
  rw [regrouped, regrouped, same]

/-- Nothing is written on a new connection. -/
theorem writtenBy_concat_empty (channels : List Channel) (caller : Nat) :
    writtenBy (channels ++ [({} : Channel)]) caller = writtenBy channels caller := by
  simp [writtenBy]

/-- What is written on the last connection comes after everything else. -/
theorem writtenBy_write {connection : Nat} (last : connection + 1 = channels.length)
    (caller : Nat) (bytes : List UInt8) (other : Nat) :
    writtenBy (channels.modify connection (·.write caller bytes)) other
      = writtenBy channels other ++ if caller = other then bytes else [] := by
  obtain ⟨front, channel, rfl⟩ : ∃ front channel, channels = front ++ [channel] := by
    rcases List.eq_nil_or_concat channels with rfl | ⟨front, channel, rfl⟩
    · cases last
    · exact ⟨front, channel, List.concat_eq_append⟩
  have atFront : connection = front.length := by simpa using last
  subst atFront
  have modified : (front ++ [channel]).modify front.length (·.write caller bytes)
      = front ++ [channel.write caller bytes] := by
    rw [List.modify_eq_take_drop, List.take_left, List.drop_left]
    rfl
  rw [modified]
  by_cases same : caller = other
  · subst same
    simp [writtenBy, Channel.write, List.filter_map, Function.comp_def]
  · simp [writtenBy, Channel.write, List.filter_map, Function.comp_def, same]

end Written

end Client

end AdmissionControl
