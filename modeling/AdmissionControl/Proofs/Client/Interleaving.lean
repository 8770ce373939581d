import AdmissionControl.Proofs.Client.RoundTrips

/-!
# Calls that interleave

However the calls of one client, the daemon's answers and all failures interleave, a connection that
the client keeps has nothing due on it, and the one that a call has taken owes only the answer to
the line of that call.
-/

namespace AdmissionControl

open Wire

namespace Client

/-- What was known of connections before is known of them still. -/
structure Kept (before after : List Channel) : Prop where
  sound : ∀ channel ∈ after, channel.Sound
  grows : ∀ {connection : Nat} {channel : Channel}, before[connection]? = some channel →
    ∃ later, after[connection]? = some later ∧ channel.Grows later

/-- A call has the connection that was opened last, has written these bytes on it and read those
which are due for them. -/
structure InUse (channels : List Channel) (caller : Nat) (link : Link Nat)
    (mine read : List UInt8) : Prop where
  last : link.connection + 1 = channels.length
  unread : link.unread = []
  isFor : ∀ {channel}, channels[link.connection]? = some channel → channel.IsFor caller mine read

/-- How a call that has the client stands with its connection. -/
def Phase.Stands (channels : List Channel) (caller : Nat) (errand : Errand) : Phase → Prop
  | .connecting => writtenBy channels caller = []
  | .writing link left =>
      ∃ mine, mine ++ left = errand.line ∧ writtenBy channels caller = mine
        ∧ InUse channels caller link mine []
  | .reading link read closed =>
      writtenBy channels caller = errand.line ∧ InUse channels caller link errand.line read
        ∧ (closed = true → Turn.lineFeed ∉ read
          ∧ ∀ {channel}, channels[link.connection]? = some channel → channel.isAtEnd = true)

/-- A call has put its line on a connection once, and the result is accepted from the answer to that
line. -/
def Owns (channels : List Channel) (number : Nat) (errand : Errand) (result : Result) : Prop :=
  writtenBy channels number = errand.line
    ∧ ∃ (connection : Nat) (channel : Channel), channels[connection]? = some channel
      ∧ channel.Yields number errand result

/-- What is known of a call from the connections. -/
structure Account (channels : List Channel) (number : Nat) (entry : Option (Errand × Stage)) :
    Prop where
  unwritten : entry.all (·.2 = .waiting) = true → writtenBy channels number = []
  once : ∀ {errand stage}, entry = some (errand, stage) →
    writtenBy channels number <+: errand.line
  own : ∀ {errand result}, entry = some (errand, .ended (.returned result)) →
    result.isFromReply = true → Owns channels number errand result

section Connections

variable {channels after : List Channel} {caller connection : Nat} {link : Link Nat}
  {mine read : List UInt8}

theorem kept_modify {change : Channel → Channel} (sound : ∀ channel ∈ channels, channel.Sound)
    (keeps : ∀ channel : Channel, channel.Sound →
      (change channel).Sound ∧ channel.Grows (change channel)) (connection : Nat) :
    Kept channels (channels.modify connection change) := by
  constructor
  · intro channel member
    obtain ⟨number, found⟩ := List.getElem?_of_mem member
    rw [List.getElem?_modify] at found
    obtain ⟨before, isBefore, rfl⟩ := Option.map_eq_some_iff.mp found
    have soundBefore := sound before (List.mem_of_getElem? isBefore)
    split
    · exact (keeps before soundBefore).1
    · exact soundBefore
  · intro number channel found
    rw [List.getElem?_modify, found]
    refine ⟨_, rfl, ?_⟩
    split
    · exact (keeps channel (sound channel (List.mem_of_getElem? found))).2
    · exact .refl channel

theorem kept_concat (sound : ∀ channel ∈ channels, channel.Sound) :
    Kept channels (channels ++ [({} : Channel)]) := by
  constructor
  · intro channel member
    rcases List.mem_append.mp member with earlier | last
    · exact sound channel earlier
    · rw [List.mem_singleton.mp last]
      exact Channel.sound_empty
  · intro number channel found
    refine ⟨channel, ?_, .refl channel⟩
    rw [List.getElem?_append_left (List.getElem?_eq_some_iff.mp found).1, found]

theorem Kept.refl (sound : ∀ channel ∈ channels, channel.Sound) : Kept channels channels :=
  ⟨sound, fun found => ⟨_, found, .refl _⟩⟩

/-- The connection in use is there. -/
theorem InUse.exists_channel (inUse : InUse channels caller link mine read)
    (sound : ∀ channel ∈ channels, channel.Sound) :
    ∃ channel, channels[link.connection]? = some channel ∧ channel.Sound
      ∧ channel.IsFor caller mine read := by
  have present : link.connection < channels.length := by
    rw [← inUse.last]
    exact Nat.lt_succ_self _
  have found := List.getElem?_eq_getElem present
  exact ⟨_, found, sound _ (List.getElem_mem present), inUse.isFor found⟩

/-- What changes the connection that is in use, or another one. -/
theorem InUse.modify {change : Channel → Channel} {next later : List UInt8}
    (inUse : InUse channels caller link mine read) (connection : Nat)
    (changes : ∀ {channel}, channels[link.connection]? = some channel →
      (if connection = link.connection then change channel else channel).IsFor caller next later) :
    InUse (channels.modify connection change) caller link next later := by
  refine ⟨by rw [List.length_modify]; exact inUse.last, inUse.unread, ?_⟩
  intro channel found
  rw [List.getElem?_modify] at found
  obtain ⟨before, isBefore, rfl⟩ := Option.map_eq_some_iff.mp found
  exact changes isBefore

/-- Nothing that the daemon does takes a connection from the call which has it. -/
theorem InUse.respond {change : Channel → Channel}
    (inUse : InUse channels caller link mine read) (sound : ∀ channel ∈ channels, channel.Sound)
    (responds : ∀ channel : Channel, channel.Sound → channel.Responds (change channel))
    (connection : Nat) : InUse (channels.modify connection change) caller link mine read := by
  refine inUse.modify connection fun found => ?_
  split
  · exact (inUse.isFor found).respond (responds _ (sound _ (List.mem_of_getElem? found)))
  · exact inUse.isFor found

theorem inUse_connect (channels : List Channel) (caller : Nat) :
    InUse (channels ++ [({} : Channel)]) caller ⟨channels.length, []⟩ [] [] := by
  refine ⟨by simp, rfl, fun found => ?_⟩
  rw [List.getElem?_concat_length] at found
  cases found
  exact Channel.isFor_empty caller

theorem writtenBy_modify {change : Channel → Channel}
    (sound : ∀ channel ∈ channels, channel.Sound)
    (same : ∀ channel : Channel, channel.Sound → (change channel).written = channel.written)
    (connection : Nat) : writtenBy (channels.modify connection change) = writtenBy channels := by
  refine writtenBy_congr (List.ext_getElem? fun number => ?_)
  simp only [List.getElem?_map, List.getElem?_modify, Option.map_eq_map, Option.map_map]
  refine Option.map_congr fun channel found => ?_
  simp only [Function.comp_apply]
  split
  · exact same channel (sound channel (List.mem_of_getElem? found))
  · rfl

end Connections

section Standing

variable {channels after : List Channel} {caller number : Nat} {errand : Errand}

/-- Where a call stands, it has written a beginning of its line. -/
theorem Phase.Stands.once {phase : Phase} (stands : phase.Stands channels caller errand) :
    writtenBy channels caller <+: errand.line := by
  cases phase with
  | connecting =>
      rw [show writtenBy channels caller = [] from stands]
      exact List.nil_prefix
  | writing link left =>
      obtain ⟨mine, whole, written, _⟩ := stands
      rw [written, ← whole]
      exact List.prefix_append _ _
  | reading link read closed =>
      exact stands.1 ▸ List.prefix_rfl

theorem Account.kept {entry : Option (Errand × Stage)} (account : Account channels number entry)
    (kept : Kept channels after) (same : writtenBy after number = writtenBy channels number) :
    Account after number entry := by
  refine ⟨?_, ?_, ?_⟩
  · rw [same]
    exact account.unwritten
  · rw [same]
    exact account.once
  · intro errand result isEntry isFromReply
    obtain ⟨written, connection, channel, found, yields⟩ := account.own isEntry isFromReply
    obtain ⟨later, isLater, grows⟩ := kept.grows found
    exact ⟨same.trans written, connection, later, isLater, yields.mono grows⟩

/-- A call that has begun and has no result yet. -/
theorem account_of_once {stage : Stage} (once : writtenBy channels number <+: errand.line)
    (begun : stage ≠ .waiting) (noResult : ∀ result, stage ≠ .ended (.returned result)) :
    Account channels number (some (errand, stage)) := by
  refine ⟨fun waits => absurd (by simpa using waits) begun, ?_, ?_⟩
  · rintro errand stage ⟨⟩
    exact once
  · rintro errand result ⟨⟩
    exact absurd rfl (noResult result)

end Standing

end Client

namespace Callers

open Client

/-- What holds of a client and its callers at all times. -/
structure Sound (callers : Callers) : Prop where
  channels : ∀ channel ∈ callers.channels, channel.Sound
  /-- Between two calls, nothing is due on the connection. -/
  idle : callers.current = none → ∀ {link}, callers.client.link = some link →
    InUse callers.channels 0 link [] []
  /-- A call that has the client has the connection too. -/
  taken : ∀ {trip}, callers.current = some trip → callers.client.link = none
    ∧ callers.calls[trip.caller]? = some (trip.errand, .calling)
    ∧ trip.phase.Stands callers.channels trip.caller trip.errand
  calling : ∀ {number errand}, callers.calls[number]? = some (errand, .calling) →
    ∃ phase, callers.current = some ⟨number, errand, phase⟩
  account : ∀ number, Account callers.channels number callers.calls[number]?

variable {callers : Callers}

section Steps

theorem sound_empty : ({} : Callers).Sound where
  channels := nofun
  idle _ := nofun
  taken := nofun
  calling := nofun
  account _ := ⟨fun _ => rfl, nofun, nofun⟩

theorem getElem?_put {number : Nat} {errand : Errand} {entry : Errand × Stage}
    (present : callers.calls[number]? = some entry) (stage : Stage) :
    (callers.put number errand stage).calls[number]? = some (errand, stage) :=
  List.getElem?_set_self (List.getElem?_eq_some_iff.mp present).1

theorem getElem?_put_of_ne {number other : Nat} (different : number ≠ other) (errand : Errand)
    (stage : Stage) :
    (callers.put number errand stage).calls[other]? = callers.calls[other]? :=
  List.getElem?_set_ne different

/-- What is found after a call was put at a stage is that call, or was there before. -/
theorem put_cases {number other : Nat} {errand : Errand} {stage : Stage} {entry : Errand × Stage}
    (found : (callers.put number errand stage).calls[other]? = some entry) :
    (number = other ∧ entry = (errand, stage))
      ∨ (number ≠ other ∧ callers.calls[other]? = some entry) := by
  by_cases same : number = other
  · rw [put, List.getElem?_set, if_pos same] at found
    split at found
    · exact .inl ⟨same, (Option.some.inj found).symm⟩
    · cases found
  · exact .inr ⟨same, (getElem?_put_of_ne same errand stage).symm.trans found⟩

/-- Putting a call at a stage concerns that call alone. -/
theorem Sound.account_put (sound : callers.Sound) {number : Nat} {errand : Errand}
    {entry : Errand × Stage} (present : callers.calls[number]? = some entry) {stage : Stage}
    (account : Account callers.channels number (some (errand, stage))) (other : Nat) :
    Account callers.channels other (callers.put number errand stage).calls[other]? := by
  by_cases mine : number = other
  · subst mine
    rw [getElem?_put present]
    exact account
  · rw [getElem?_put_of_ne mine]
    exact sound.account other

/-- The daemon answers or closes a connection. -/
theorem Sound.respond (sound : callers.Sound) (connection : Nat) {change : Channel → Channel}
    (responds : ∀ channel : Channel, channel.Sound → channel.Responds (change channel)) :
    Sound { callers with channels := callers.channels.modify connection change } := by
  have kept : Kept callers.channels (callers.channels.modify connection change) :=
    kept_modify sound.channels (fun channel isSound =>
      ⟨(responds channel isSound).sound, (responds channel isSound).grows⟩) _
  have written : writtenBy (callers.channels.modify connection change)
      = writtenBy callers.channels :=
    writtenBy_modify sound.channels (fun channel isSound => (responds channel isSound).written) _
  have used {caller : Nat} {link : Link Nat} {mine read : List UInt8}
      (inUse : InUse callers.channels caller link mine read) :
      InUse (callers.channels.modify connection change) caller link mine read :=
    inUse.respond sound.channels responds connection
  refine ⟨kept.sound, fun free _ isLink => used (sound.idle free isLink), ?_, sound.calling,
    fun number => (sound.account number).kept kept (congrFun written number)⟩
  intro trip current
  obtain ⟨noLink, isCalling, stands⟩ := sound.taken current
  refine ⟨noLink, isCalling, ?_⟩
  obtain ⟨caller, errand, phase⟩ := trip
  cases phase with
  | connecting => exact (congrFun written caller).trans stands
  | writing link left =>
      obtain ⟨mine, whole, isMine, inUse⟩ := stands
      exact ⟨mine, whole, (congrFun written caller).trans isMine, used inUse⟩
  | reading link read closed =>
      obtain ⟨isLine, inUse, ended⟩ := stands
      refine ⟨(congrFun written caller).trans isLine, used inUse, fun isClosed => ?_⟩
      refine ⟨(ended isClosed).1, fun found => ?_⟩
      rw [List.getElem?_modify] at found
      obtain ⟨before, isBefore, rfl⟩ := Option.map_eq_some_iff.mp found
      have atEnd := (ended isClosed).2 isBefore
      have isSound := sound.channels before (List.mem_of_getElem? isBefore)
      split
      · rw [(responds before isSound).atEnd atEnd]
        exact atEnd
      · exact atEnd

/-- A call is made. -/
theorem Sound.call (sound : callers.Sound) (errand : Errand) :
    Sound { callers with calls := callers.calls ++ [(errand, .waiting)] } := by
  have known {number : Nat} {entry : Errand × Stage} (found : callers.calls[number]? = some entry) :
      (callers.calls ++ [(errand, Stage.waiting)])[number]? = some entry := by
    rw [List.getElem?_append_left (List.getElem?_eq_some_iff.mp found).1, found]
  have known_or_new (number : Nat) :
      (callers.calls ++ [(errand, Stage.waiting)])[number]? = callers.calls[number]?
        ∨ callers.calls[number]? = none
          ∧ (callers.calls ++ [(errand, Stage.waiting)])[number]? = some (errand, .waiting) := by
    rcases Nat.lt_trichotomy number callers.calls.length with below | same | above
    · exact .inl (List.getElem?_append_left below)
    · exact .inr ⟨by simp [same], by simp [same]⟩
    · refine .inl ?_
      rw [List.getElem?_eq_none (Nat.le_of_lt above), List.getElem?_eq_none]
      rw [List.length_append]
      exact above
  refine ⟨sound.channels, sound.idle, ?_, ?_, ?_⟩
  · intro trip current
    obtain ⟨noLink, isCalling, stands⟩ := sound.taken current
    exact ⟨noLink, known isCalling, stands⟩
  · intro number other isCalling
    dsimp only at isCalling
    rcases known_or_new number with same | ⟨_, new⟩
    · exact sound.calling (same ▸ isCalling)
    · cases new.symm.trans isCalling
  · intro number
    dsimp only
    rcases known_or_new number with same | ⟨absent, new⟩
    · rw [same]
      exact sound.account number
    · have unwritten : writtenBy callers.channels number = [] :=
        (sound.account number).unwritten (by rw [absent]; rfl)
      rw [new]
      refine ⟨fun _ => unwritten, fun _ => ?_, nofun⟩
      rw [unwritten]
      exact List.nil_prefix

/-- The call that has the client goes on. -/
theorem Sound.proceed {trip : RoundTrip} {channels : List Channel} {phase : Phase}
    (sound : callers.Sound) (current : callers.current = some trip)
    (kept : Kept callers.channels channels)
    (others : ∀ other, trip.caller ≠ other →
      writtenBy channels other = writtenBy callers.channels other)
    (stands : phase.Stands channels trip.caller trip.errand) :
    Sound ({ callers with channels }.proceed trip phase) := by
  obtain ⟨noLink, isCalling, _⟩ := sound.taken current
  refine ⟨kept.sound, nofun, ?_, ?_, ?_⟩
  · rintro next ⟨⟩
    exact ⟨noLink, isCalling, stands⟩
  · intro number errand calling
    obtain ⟨_, same⟩ := sound.calling calling
    cases current.symm.trans same
    exact ⟨phase, rfl⟩
  · intro number
    by_cases mine : trip.caller = number
    · subst mine
      change Account channels trip.caller callers.calls[trip.caller]?
      rw [isCalling]
      exact account_of_once stands.once nofun nofun
    · exact (sound.account number).kept kept (others number mine)

/-- The call that has the client ends, and the client is left as it is given. -/
theorem Sound.release {trip : RoundTrip} {stage : Stage} {client : Client Nat}
    (sound : callers.Sound) (current : callers.current = some trip)
    (idle : ∀ {link}, client.link = some link → InUse callers.channels 0 link [] [])
    (notCalling : stage ≠ .calling)
    (account : Account callers.channels trip.caller (some (trip.errand, stage))) :
    Sound { callers.put trip.caller trip.errand stage with client, current := none } := by
  obtain ⟨_, isCalling, _⟩ := sound.taken current
  refine ⟨sound.channels, fun _ _ => idle, nofun, ?_, sound.account_put isCalling account⟩
  intro number errand calling
  rcases put_cases calling with ⟨_, same⟩ | ⟨different, before⟩
  · exact absurd (Prod.mk.inj same).2.symm notCalling
  · obtain ⟨_, isCurrent⟩ := sound.calling before
    cases current.symm.trans isCurrent
    exact absurd rfl different

/-- A waiting call gets the client, with the connection if there is one. -/
theorem Sound.begin (sound : callers.Sound) (number : Nat) : (callers.begin number).Sound := by
  unfold Callers.begin
  split
  · next errand free waits =>
    have unwritten : writtenBy callers.channels number = [] :=
      (sound.account number).unwritten (by rw [waits]; rfl)
    have account : Account callers.channels number (some (errand, .calling)) :=
      account_of_once (unwritten ▸ List.nil_prefix) nofun nofun
    refine ⟨sound.channels, nofun, ?_, ?_, sound.account_put waits account⟩
    · rintro trip ⟨⟩
      refine ⟨rfl, getElem?_put waits .calling, ?_⟩
      change Phase.Stands callers.channels number errand _
      cases isLink : callers.client.link with
      | none => exact unwritten
      | some link =>
          have inUse := sound.idle free isLink
          exact ⟨[], rfl, unwritten, inUse.last, inUse.unread,
            fun found => (inUse.isFor found).relabel number⟩
    · intro other otherErrand calling
      rcases put_cases calling with ⟨rfl, same⟩ | ⟨_, before⟩
      · cases same
        exact ⟨_, rfl⟩
      · obtain ⟨_, isCurrent⟩ := sound.calling before
        cases free.symm.trans isCurrent
  · exact sound

/-- A new connection is in use for the call that opens it. -/
theorem Sound.connect (sound : callers.Sound) : callers.connect.Sound := by
  unfold Callers.connect
  split
  · next caller errand current =>
    obtain ⟨noLink, _, unwritten⟩ := sound.taken current
    have opened : callers.client.ensureLink (Client.channels caller) callers.channels
        = some (⟨callers.channels.length, []⟩, callers.channels ++ [({} : Channel)]) := by
      rw [Client.ensureLink, noLink]
      rfl
    rw [opened]
    refine sound.proceed current (kept_concat sound.channels)
      (fun other _ => writtenBy_concat_empty _ other) ?_
    exact ⟨[], rfl, (writtenBy_concat_empty _ caller).trans unwritten, inUse_connect _ caller⟩
  · exact sound

/-- What is written is the next part of the line. -/
theorem Sound.write (sound : callers.Sound) (count : Nat) : (callers.write count).Sound := by
  unfold Callers.write
  split
  · next caller errand link left current =>
    obtain ⟨_, _, mine, whole, written, inUse⟩ := sound.taken current
    have writes (other : Nat) :
        writtenBy (callers.channels.modify link.connection (·.write caller (left.take count))) other
          = writtenBy callers.channels other ++ if caller = other then left.take count else [] :=
      writtenBy_write inUse.last caller (left.take count) other
    have writtenMine :
        writtenBy (callers.channels.modify link.connection (·.write caller (left.take count)))
            caller = mine ++ left.take count := by
      rw [writes, if_pos rfl, written]
    have used : InUse (callers.channels.modify link.connection (·.write caller (left.take count)))
        caller link (mine ++ left.take count) [] :=
      inUse.modify link.connection fun found => by
        rw [if_pos rfl]
        exact (inUse.isFor found).write (left.take count)
    have kept : Kept callers.channels
        (callers.channels.modify link.connection (·.write caller (left.take count))) :=
      kept_modify sound.channels (fun channel isSound =>
        ⟨Channel.sound_write isSound caller _, Channel.grows_write channel caller _⟩) _
    refine sound.proceed current kept (fun other different => ?_) ?_
    · exact (writes other).trans (by rw [if_neg different, List.append_nil])
    · have joined : mine ++ left.take count ++ left.drop count = errand.line := by
        rw [List.append_assoc, List.take_append_drop, whole]
      split
      · next nothing =>
        rw [List.isEmpty_iff.mp nothing, List.append_nil] at joined
        exact ⟨joined ▸ writtenMine, joined ▸ used, nofun⟩
      · exact ⟨_, joined, writtenMine, used⟩
  · exact sound

theorem isAnswered_eq_false_iff {link : Link Nat} (unread : link.unread = []) {bytes : List UInt8}
    {closed : Bool} :
    isAnswered link (.received bytes closed) = false ↔ closed = false ∧ Turn.lineFeed ∉ bytes := by
  rw [isAnswered, unread, List.nil_append, Bool.or_eq_false_iff, Option.isSome_eq_false_iff,
    Option.isNone_iff_eq_none, Text.cut?_eq_none_iff]
  rfl

/-- What is read was due. -/
theorem Sound.read (sound : callers.Sound) (count : Nat) : (callers.read count).Sound := by
  unfold Callers.read
  split
  · next caller errand link bytes closed current =>
    obtain ⟨_, _, written, inUse, _⟩ := sound.taken current
    split
    · next channel found =>
      split
      · exact sound
      · next notAnswered =>
        obtain ⟨isOpen, _⟩ :=
          (isAnswered_eq_false_iff inUse.unread).mp (Bool.eq_false_iff.mpr notAnswered)
        have same : writtenBy (callers.channels.modify link.connection (·.take count))
            = writtenBy callers.channels :=
          writtenBy_modify sound.channels
            (fun channel _ => show (channel.take count).written = channel.written from rfl) _
        refine sound.proceed current (kept_modify sound.channels (fun channel isSound =>
          ⟨Channel.sound_take isSound count, Channel.grows_take channel count⟩) _)
          (fun other _ => congrFun same other) ?_
        refine ⟨(congrFun same caller).trans written, ?_, by rw [isOpen]; exact nofun⟩
        refine inUse.modify link.connection fun {before} isBefore => ?_
        cases found.symm.trans isBefore
        rw [if_pos rfl]
        exact (inUse.isFor found).take count
    · exact sound
  · exact sound

/-- The stream ends before there is a line. -/
theorem Sound.readEnd (sound : callers.Sound) : callers.readEnd.Sound := by
  unfold Callers.readEnd
  split
  · next caller errand link bytes closed current =>
    obtain ⟨_, _, written, inUse, _⟩ := sound.taken current
    split
    · next channel found =>
      split
      · next ends =>
        rw [Bool.and_eq_true, Bool.not_eq_true', isAnswered_eq_false_iff inUse.unread] at ends
        obtain ⟨⟨_, noFeed⟩, atEnd⟩ := ends
        refine sound.proceed current (.refl sound.channels) (fun _ _ => rfl) ?_
        refine ⟨written, inUse, fun _ => ⟨noFeed, fun {other} isOther => ?_⟩⟩
        cases found.symm.trans isOther
        exact atEnd
      · exact sound
    · exact sound
  · exact sound

/-- A call that ends without a result leaves the client disconnected. -/
theorem Sound.conclude {trip : RoundTrip} {after : After (List Channel) Nat Result}
    (sound : callers.Sound) (current : callers.current = some trip)
    (noResult : ∀ result, after.outcome ≠ .returned result) (client : after.client = {})
    (world : after.world = callers.channels) : (callers.conclude trip after).Sound := by
  obtain ⟨_, _, stands⟩ := sound.taken current
  have account : Account callers.channels trip.caller
      (some (trip.errand, .ended (trip.errand.conclude after.outcome))) := by
    refine ⟨nofun, ?_, ?_⟩
    · rintro errand stage ⟨⟩
      exact stands.once
    · intro errand result isEntry isFromReply
      obtain ⟨rfl, concluded⟩ := Prod.mk.inj (Option.some.inj isEntry)
      exact absurd (Errand.eq_returned_of_conclude (Stage.ended.inj concluded) isFromReply)
        (noResult result)
  rw [Callers.conclude, world, client]
  exact sound.release current nofun nofun account

/-- A call that ends with what it has read has read the answer to its line. -/
theorem Sound.settle {trip : RoundTrip} {link : Link Nat} {arrival : Arrival}
    (sound : callers.Sound) (current : callers.current = some trip)
    (reads : ∀ {bytes closed}, arrival = .received bytes closed →
      trip.phase = .reading link bytes closed) : (callers.settle trip link arrival).Sound := by
  unfold Callers.settle
  rcases settle_cases (Client.channels trip.caller) link callers.channels arrival
      trip.errand.accept with
    ⟨bytes, closed, part, rest, text, result, isArrival, first, isText, accepted, eq⟩
      | ⟨noResult, client, world⟩
  · obtain ⟨_, _, stands⟩ := sound.taken current
    rw [reads isArrival] at stands
    obtain ⟨written, inUse, ended⟩ := stands
    obtain ⟨channel, found, isSound, isFor⟩ := inUse.exists_channel sound.channels
    rw [inUse.unread, List.nil_append] at first
    obtain ⟨rfl, nothingDue, answer, answers, isPrefix, whole⟩ :=
      isFor.finish isSound (fun isClosed => (ended isClosed).2 found) first
    rw [eq, Callers.conclude]
    refine sound.release current ?_ nofun ?_
    · rintro next ⟨⟩
      refine ⟨inUse.last, rfl, fun isChannel => ?_⟩
      cases found.symm.trans isChannel
      exact nothingDue.relabel 0
    · refine ⟨nofun, ?_, ?_⟩
      · rintro errand stage ⟨⟩
        exact written ▸ List.prefix_rfl
      · intro errand found' isEntry isFromReply
        obtain ⟨rfl, concluded⟩ := Prod.mk.inj (Option.some.inj isEntry)
        rw [Errand.conclude_returned] at concluded
        cases concluded
        exact ⟨written, _, _, found, answer, part, text, answers, isPrefix, whole, isText, accepted⟩
  · exact sound.conclude current noResult client world

theorem Sound.fail (sound : callers.Sound) : callers.fail.Sound := by
  unfold Callers.fail
  split
  · exact sound
  · next trip current =>
    split
    · exact sound.conclude current nofun rfl rfl
    · exact sound.settle current nofun
    · exact sound.settle current nofun

theorem Sound.finish (sound : callers.Sound) : callers.finish.Sound := by
  unfold Callers.finish
  split
  · next caller errand link bytes closed current =>
    split
    · refine sound.settle current ?_
      rintro _ _ ⟨⟩
      rfl
    · exact sound
  · exact sound

/-- A call that is given up keeps nothing that another one could use. -/
theorem Sound.cancel (sound : callers.Sound) (number : Nat) : (callers.cancel number).Sound := by
  unfold Callers.cancel
  split
  · next errand waits =>
    have unwritten : writtenBy callers.channels number = [] :=
      (sound.account number).unwritten (by rw [waits]; rfl)
    have account : Account callers.channels number (some (errand, .cancelled)) :=
      account_of_once (unwritten ▸ List.nil_prefix) nofun nofun
    refine ⟨sound.channels, sound.idle, ?_, ?_, sound.account_put waits account⟩
    · intro trip current
      obtain ⟨noLink, isCalling, stands⟩ := sound.taken current
      refine ⟨noLink, ?_, stands⟩
      have different : number ≠ trip.caller := by
        rintro rfl
        cases waits.symm.trans isCalling
      exact (getElem?_put_of_ne different errand .cancelled).trans isCalling
    · intro other otherErrand calling
      rcases put_cases calling with ⟨_, same⟩ | ⟨_, before⟩
      · cases same
      · exact sound.calling before
  · next errand calling =>
    obtain ⟨phase, current⟩ := sound.calling calling
    obtain ⟨noLink, _, stands⟩ := sound.taken current
    refine sound.release current (fun isLink => ?_) nofun (account_of_once stands.once nofun nofun)
    cases noLink.symm.trans isLink
  · exact sound

theorem Sound.disconnect (sound : callers.Sound) : callers.disconnect.Sound := by
  unfold Callers.disconnect
  split
  · next free =>
    refine ⟨sound.channels, nofun, fun current => ?_, sound.calling, sound.account⟩
    rw [Option.isNone_iff_eq_none.mp free] at current
    cases current
  · exact sound

/-- Whatever happens next, connections and calls stay in order. -/
theorem Sound.step (sound : callers.Sound) (action : Action) : (callers.step action).Sound := by
  cases action with
  | call errand => exact sound.call errand
  | begin number => exact sound.begin number
  | connect => exact sound.connect
  | write count => exact sound.write count
  | read count => exact sound.read count
  | readEnd => exact sound.readEnd
  | fail => exact sound.fail
  | finish => exact sound.finish
  | cancel number => exact sound.cancel number
  | disconnect => exact sound.disconnect
  | answer connection body =>
      exact sound.respond connection fun _ isSound => Channel.responds_answer isSound body
  | close connection count =>
      exact sound.respond connection fun _ isSound => Channel.responds_close isSound count

theorem Sound.run (sound : callers.Sound) (actions : List Action) :
    (callers.run actions).Sound := by
  induction actions generalizing callers with
  | nil => exact sound
  | cons action rest inductionHypothesis => exact inductionHypothesis (sound.step action)

end Steps

end Callers

end AdmissionControl
