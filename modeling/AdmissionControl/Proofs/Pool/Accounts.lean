import AdmissionControl.Pool.Basic
import AdmissionControl.Proofs.Session.Course
import Mathlib.Data.List.Nodup

/-!
# What a pool's log says

The log of a pool is faithful to what the peers did: on every connection it has exchanges over the
first whole lines its peer sent, and over all of them while a worker serves the connection. Every
action keeps this, whichever connection it is on, so it holds after every run.
-/

namespace AdmissionControl

open Wire

namespace Pool

/-- Something done to a pool: by the peer of a connection, or by whoever runs the pool. -/
inductive Action where
  /-- A connection is submitted, with what its peer has done before. -/
  | submit (inbox : Inbox)
  | act (number : Nat) (action : PeerAction)
  | beginShutdown
  | endShutdown
  | shutdown (milliseconds : Nat)

/-- The pool after an action. -/
def perform (plan : Plan) (pool : Pool) : Action → Pool
  | .submit inbox => (pool.submit plan inbox).pool
  | .act number action => pool.act plan number action
  | .beginShutdown => pool.beginShutdown plan
  | .endShutdown => pool.endShutdown plan
  | .shutdown milliseconds => (pool.shutdown plan milliseconds).pool

/-- The pool after actions, from its start. -/
def run (plan : Plan) (actions : List Action) : Pool :=
  actions.foldl (perform plan) (fresh plan)

/-- What the peers have done in all, in the order of their connections, after an action. -/
def Action.onPeers (peers : List Inbox) : Action → List Inbox
  | .submit inbox => peers ++ [inbox]
  | .act number action => peers.modify number action.onInbox
  | .beginShutdown | .endShutdown | .shutdown _ => peers

/-- What the peers have done in all after actions. -/
def peersAfter (actions : List Action) : List Inbox := actions.foldl Action.onPeers []

/-- The exchange of an event. -/
def Event.exchange? : Event → Option Exchange
  | .exchanged _ exchange _ => some exchange
  | .closed _ _ => none

/-- The exchange of an event on a connection, and whether its reply arrived. -/
def Event.record? (number : Nat) : Event → Option (Exchange × Bool)
  | .exchanged other exchange delivered =>
      if other = number then some (exchange, delivered) else none
  | .closed _ _ => none

/-- All exchanges in the course of events. -/
def exchanges (events : List Event) : List Exchange := events.filterMap Event.exchange?

/-- The exchanges on one connection in the course of events, and whether their replies arrived. -/
def records (events : List Event) (number : Nat) : List (Exchange × Bool) :=
  events.filterMap (Event.record? number)

section

variable (events : List Event) (number : Nat)

/-- A turn's events tell its exchanges. -/
theorem exchanges_append_turn (exchanges : List Exchange) (delivered : Bool) :
    Pool.exchanges (events ++ exchanges.map (Event.exchanged number · delivered))
      = Pool.exchanges events ++ exchanges := by
  rw [Pool.exchanges, List.filterMap_append]
  refine congrArg (Pool.exchanges events ++ ·) ?_
  rw [List.filterMap_map]
  exact List.filterMap_some

theorem records_append_turn (exchanges : List Exchange) (delivered : Bool) :
    records (events ++ exchanges.map (Event.exchanged number · delivered)) number
      = records events number ++ exchanges.map (·, delivered) := by
  have told : Event.record? number ∘ (Event.exchanged number · delivered)
      = some ∘ fun exchange => (exchange, delivered) := funext fun _ => if_pos rfl
  rw [records, List.filterMap_append, List.filterMap_map, told, List.filterMap_eq_map]
  rfl

/-- A turn's events are on its own connection. -/
theorem records_append_turn_of_ne {other : Nat} (different : other ≠ number)
    (exchanges : List Exchange) (delivered : Bool) :
    records (events ++ exchanges.map (Event.exchanged number · delivered)) other
      = records events other := by
  rw [records, List.filterMap_append, List.filterMap_map]
  refine (congrArg (records events other ++ ·) (List.filterMap_eq_nil_iff.mpr ?_)).trans
    (List.append_nil _)
  exact fun exchange _ => if_neg (Ne.symm different)

/-- Closing connections tells no exchange. -/
def Closings (events : List Event) : Prop :=
  ∀ event ∈ events, ∃ number seen, event = .closed number seen

variable {closings : List Event}

theorem exchanges_append_closings (closed : Closings closings) :
    exchanges (events ++ closings) = exchanges events := by
  rw [exchanges, List.filterMap_append]
  refine (congrArg (exchanges events ++ ·) (List.filterMap_eq_nil_iff.mpr ?_)).trans
    (List.append_nil _)
  intro event member
  obtain ⟨_, _, rfl⟩ := closed event member
  rfl

theorem records_append_closings (closed : Closings closings) :
    records (events ++ closings) number = records events number := by
  rw [records, List.filterMap_append]
  refine (congrArg (records events number ++ ·) (List.filterMap_eq_nil_iff.mpr ?_)).trans
    (List.append_nil _)
  intro event member
  obtain ⟨_, _, rfl⟩ := closed event member
  rfl

end

end Pool

/-- The records of a connection are about the first whole lines its peer sent, and the peer misses
replies only by having gone. -/
def Inbox.Heard (limit : Nat) (peer : Inbox) (records : List (Exchange × Bool)) : Prop :=
  ∃ exchanges delivered, records = exchanges.map (·, delivered) ∧ Took limit peer.bytes exchanges
    ∧ (delivered = false → peer.gone = true)

/-- Nothing taken is always the first of what was sent. -/
theorem Inbox.heard_nil (limit : Nat) (peer : Inbox) : peer.Heard limit [] :=
  ⟨[], true, rfl, .answered [] rfl List.nil_prefix, Bool.noConfusion⟩

/-- Whatever the peer does next, the records stay about the first whole lines it sent. -/
theorem Inbox.Heard.onInbox {limit : Nat} {peer : Inbox} {records : List (Exchange × Bool)}
    (heard : peer.Heard limit records) (action : PeerAction) :
    (action.onInbox peer).Heard limit records := by
  obtain ⟨exchanges, delivered, recordsEq, took, missed⟩ := heard
  cases action with
  | send bytes =>
      unfold PeerAction.onInbox
      dsimp only
      split
      · exact ⟨exchanges, delivered, recordsEq, took, missed⟩
      · exact ⟨exchanges, delivered, recordsEq, took.append bytes, missed⟩
  | finish => exact ⟨exchanges, delivered, recordsEq, took, missed⟩
  | leave => exact ⟨exchanges, delivered, recordsEq, took, fun _ => rfl⟩

namespace Session

/-- A session attends to its peer: it is open and up to date with all that the peer did, of which
the records are. -/
structure Attends (limit : Nat) (peer : Inbox) (records : List (Exchange × Bool))
    (session : Session) : Prop where
  sending : peer.ended = false
  receiving : session.reachable = !peer.gone
  current : ∃ exchanges, records = exchanges.map (·, session.reachable)
    ∧ session.UpToDate limit peer.bytes exchanges

variable {limit : Nat} {peer : Inbox} {records : List (Exchange × Bool)} {session : Session}

theorem Attends.heard (attends : session.Attends limit peer records) :
    peer.Heard limit records := by
  obtain ⟨exchanges, recordsEq, current⟩ := attends.current
  refine ⟨exchanges, _, recordsEq, current.took, fun unreachable => ?_⟩
  simpa [unreachable] using attends.receiving

/-- What a turn leaves: a session that attends to its peer or is over. -/
def Leaves (limit : Nat) (peer : Inbox) (records : List (Exchange × Bool)) (session : Session) :
    Prop :=
  session.Attends limit peer records ∨ session.isOver ∧ peer.Heard limit records

theorem isOver_hearEnd (session : Session) : session.hearEnd.isOver := by
  unfold hearEnd
  split
  · assumption
  · rfl

theorem reachable_hearEnd (session : Session) :
    session.hearEnd.reachable = session.reachable := by
  unfold hearEnd
  split <;> rfl

end Session

section

variable {service : Service} {peer : Inbox}

/-- What a session has told that stands with all its peer sent. -/
theorem Session.Stands.heard {limit : Nat} {exchanges : List Exchange} {session : Session}
    (stands : session.Stands limit peer.bytes exchanges)
    (receiving : session.reachable = !peer.gone) :
    peer.Heard limit (exchanges.map (·, session.reachable)) := by
  refine ⟨exchanges, _, rfl, stands.took, fun unreachable => ?_⟩
  simpa [unreachable] using receiving

/-- A session that stands with all its peer sent attends to it or is over. -/
theorem Session.Stands.leaves {limit : Nat} {exchanges : List Exchange} {session : Session}
    (stands : session.Stands limit peer.bytes exchanges) (sending : peer.ended = false)
    (receiving : session.reachable = !peer.gone) :
    session.Leaves limit peer (exchanges.map (·, session.reachable)) := by
  have heard := stands.heard receiving
  rcases stands with current | ⟨isOver, _⟩
  · exact .inl ⟨sending, receiving, _, rfl, current⟩
  · exact .inr ⟨isOver, heard⟩

/-- A worker's turn with an action of the peer. -/
theorem Session.Attends.onTurn {records : List (Exchange × Bool)} {session : Session}
    (attends : session.Attends service.lineLimit peer records) (limiter : Limiter)
    (action : PeerAction) :
    let turn := action.onTurn service { session, limiter }
    turn.session.Leaves service.lineLimit (action.onInbox peer)
        (records ++ turn.exchanges.map (·, turn.session.reachable))
      ∧ Serves service.tuning limiter turn.exchanges turn.limiter := by
  intro turn
  cases action with
  | send bytes =>
      obtain ⟨sending, receiving, exchanges, recordsEq, current⟩ := attends
      obtain ⟨new, newEq, served, samePeer⟩ :=
        Turn.goesOn_hear service { session, limiter } bytes
      have stands : turn.session.Stands service.lineLimit (peer.bytes ++ bytes)
          (exchanges ++ turn.exchanges) :=
        Turn.stands_hear bytes (.inl (by simpa using current))
      have sent : PeerAction.onInbox peer (.send bytes)
          = { peer with bytes := peer.bytes ++ bytes } := if_neg (by simp [sending])
      have leaves : turn.session.Leaves service.lineLimit
          { peer with bytes := peer.bytes ++ bytes }
          ((exchanges ++ turn.exchanges).map (·, turn.session.reachable)) :=
        stands.leaves sending (samePeer.trans receiving)
      rw [List.map_append] at leaves
      rw [sent, recordsEq, ← samePeer]
      refine ⟨leaves, ?_⟩
      rwa [show turn.exchanges = new from newEq]
  | finish =>
      have heard := Inbox.Heard.onInbox attends.heard .finish
      exact ⟨.inr ⟨session.isOver_hearEnd, (List.append_nil records).symm ▸ heard⟩, .nil _⟩
  | leave =>
      have heard := Inbox.Heard.onInbox attends.heard .leave
      exact ⟨.inr ⟨session.isOver_hearEnd, (List.append_nil records).symm ▸ heard⟩, .nil _⟩

/-- The turn of a worker that takes up a connection. -/
theorem Inbox.leaves_takeUp (service : Service) (limiter : Limiter) (peer : Inbox) :
    let turn := peer.takeUp service limiter
    turn.session.Leaves service.lineLimit peer
        (turn.exchanges.map (·, turn.session.reachable))
      ∧ Serves service.tuning limiter turn.exchanges turn.limiter := by
  have stands := Turn.stands_hear_opening service limiter (!peer.gone) peer.bytes
  obtain ⟨new, newEq, served, receiving⟩ := Turn.goesOn_hear service
    { session := .opening (!peer.gone) false, limiter } peer.bytes
  unfold Inbox.takeUp
  generalize Turn.hear service { session := .opening (!peer.gone) false, limiter } peer.bytes
    = turn at *
  obtain rfl : turn.exchanges = new := newEq
  dsimp only
  split
  · refine ⟨.inr ⟨turn.session.isOver_hearEnd, ?_⟩, served⟩
    rw [Session.reachable_hearEnd]
    exact stands.heard receiving
  · next sending =>
    exact ⟨stands.leaves (Bool.eq_false_iff.mpr sending) receiving, served⟩

end

namespace Pool

/-- The numbers of the connections that a pool has open. -/
def numbers (pool : Pool) : List Nat :=
  pool.serving.map Prod.fst ++ pool.queue.map Prod.fst

/-- The pool is faithful to what its peers did. -/
structure Faithful (plan : Plan) (peers : List Inbox) (pool : Pool) : Prop where
  counted : pool.arrivals = peers.length
  distinct : pool.numbers.Nodup
  /-- Sessions are up to date. -/
  served : ∀ entry ∈ pool.serving, ∃ peer, peers[entry.1]? = some peer
    ∧ entry.2.Attends plan.service.lineLimit peer (records pool.log entry.1)
  /-- What waits is all that the peer did, and nothing of it has been taken. -/
  waiting : ∀ entry ∈ pool.queue, peers[entry.1]? = some entry.2
    ∧ records pool.log entry.1 = []
  /-- On every connection only the first lines have been taken. -/
  heard : ∀ number (peer : Inbox), peers[number]? = some peer →
    peer.Heard plan.service.lineLimit (records pool.log number)
  /-- Nothing has happened on connections that do not exist. -/
  unknown : ∀ number, peers.length ≤ number → records pool.log number = []
  /-- The exchanges account for the limiter. -/
  limiter : Serves plan.service.tuning (.fresh plan.service.tuning) (exchanges pool.log)
    pool.limiter

theorem faithful_fresh (plan : Plan) : Faithful plan [] (fresh plan) where
  counted := rfl
  distinct := List.nodup_nil
  served _ member := nomatch member
  waiting _ member := nomatch member
  heard _ _ found := nomatch found
  unknown _ _ := rfl
  limiter := .nil _

variable {plan : Plan} {peers : List Inbox} {pool : Pool}

/-- Leaving sessions and waiting connections out, changing sessions that go on attending to their
peers, and closing connections leave a pool faithful. -/
theorem Faithful.restrict (faithful : Faithful plan peers pool)
    {serving : List (Nat × Session)} {queue : List (Nat × Inbox)} (closings : List Event)
    (fewer : (serving.map Prod.fst ++ queue.map Prod.fst).Sublist pool.numbers)
    (attending : ∀ entry ∈ serving, ∃ session, (entry.1, session) ∈ pool.serving
      ∧ ∀ {peer records}, session.Attends plan.service.lineLimit peer records →
        entry.2.Attends plan.service.lineLimit peer records)
    (kept : queue ⊆ pool.queue) (closed : Closings closings) (phase : Phase) :
    Faithful plan peers { pool with serving, queue, phase, log := pool.log ++ closings } where
  counted := faithful.counted
  distinct := faithful.distinct.sublist fewer
  served entry member := by
    obtain ⟨session, present, goesOn⟩ := attending entry member
    obtain ⟨peer, found, attends⟩ := faithful.served _ present
    rw [records_append_closings _ _ closed]
    exact ⟨peer, found, goesOn attends⟩
  waiting entry member := by
    rw [records_append_closings _ _ closed]
    exact faithful.waiting entry (kept member)
  heard number peer found := by
    rw [records_append_closings _ _ closed]
    exact faithful.heard number peer found
  unknown number beyond := by
    rw [records_append_closings _ _ closed]
    exact faithful.unknown number beyond
  limiter := by
    rw [exchanges_append_closings _ closed]
    exact faithful.limiter

/-- The numbers of open connections are those of peers. -/
theorem Faithful.lt_of_mem_numbers (faithful : Faithful plan peers pool) {number : Nat}
    (present : number ∈ pool.numbers) : number < peers.length := by
  rcases List.mem_append.mp present with served | waiting
  · obtain ⟨entry, member, rfl⟩ := List.mem_map.mp served
    obtain ⟨peer, found, _⟩ := faithful.served entry member
    exact (List.getElem?_eq_some_iff.mp found).1
  · obtain ⟨entry, member, rfl⟩ := List.mem_map.mp waiting
    exact (List.getElem?_eq_some_iff.mp (faithful.waiting entry member).1).1

section

variable {number : Nat} {peer : Inbox}

/-- Recording exchanges on a connection that is neither served nor waiting. -/
theorem Faithful.record (faithful : Faithful plan peers pool) (elsewhere : number ∉ pool.numbers)
    (found : peers[number]? = some peer) {exchanges : List Exchange} {delivered : Bool}
    {limiter : Limiter}
    (heard : peer.Heard plan.service.lineLimit
      (records pool.log number ++ exchanges.map (·, delivered)))
    (served : Serves plan.service.tuning pool.limiter exchanges limiter) :
    Faithful plan peers
      { pool with
        limiter, log := pool.log ++ exchanges.map (Event.exchanged number · delivered) } := by
  have recordsOf {other : Nat} (different : other ≠ number) :=
    records_append_turn_of_ne pool.log number different exchanges delivered
  have notServed : ∀ entry ∈ pool.serving, entry.1 ≠ number := fun entry member same =>
    elsewhere (List.mem_append_left _ (List.mem_map.mpr ⟨entry, member, same⟩))
  have notWaiting : ∀ entry ∈ pool.queue, entry.1 ≠ number := fun entry member same =>
    elsewhere (List.mem_append_right _ (List.mem_map.mpr ⟨entry, member, same⟩))
  refine ⟨faithful.counted, faithful.distinct, ?_, ?_, ?_, ?_, ?_⟩
  · intro entry member
    dsimp only
    rw [recordsOf (notServed entry member)]
    exact faithful.served entry member
  · intro entry member
    dsimp only
    rw [recordsOf (notWaiting entry member)]
    exact faithful.waiting entry member
  · intro other otherPeer otherFound
    by_cases same : other = number
    · subst same
      obtain rfl : otherPeer = peer := Option.some.inj (otherFound.symm.trans found)
      dsimp only
      rwa [records_append_turn]
    · dsimp only
      rw [recordsOf same]
      exact faithful.heard other otherPeer otherFound
  · intro other beyond
    have different : other ≠ number := by
      have := (List.getElem?_eq_some_iff.mp found).1
      omega
    dsimp only
    rw [recordsOf different]
    exact faithful.unknown other beyond
  · dsimp only
    rw [exchanges_append_turn]
    exact faithful.limiter.append served

/-- Going on serving a connection that is neither served nor waiting. -/
theorem Faithful.serve (faithful : Faithful plan peers pool) (elsewhere : number ∉ pool.numbers)
    (found : peers[number]? = some peer) {session : Session}
    (attends : session.Attends plan.service.lineLimit peer (records pool.log number)) :
    Faithful plan peers { pool with serving := pool.serving ++ [(number, session)] } := by
  refine ⟨faithful.counted, ?_, ?_, faithful.waiting, faithful.heard, faithful.unknown,
    faithful.limiter⟩
  · have swapped : ((pool.serving ++ [(number, session)]).map Prod.fst
        ++ pool.queue.map Prod.fst).Perm (number :: pool.numbers) := by
      rw [List.map_append, List.append_assoc]
      exact List.perm_middle
    exact swapped.nodup_iff.mpr (List.nodup_cons.mpr ⟨elsewhere, faithful.distinct⟩)
  · intro entry member
    rcases List.mem_append.mp member with earlier | last
    · exact faithful.served entry earlier
    · obtain rfl := List.mem_singleton.mp last
      exact ⟨peer, found, attends⟩

/-- Having a connection wait that is neither served nor waiting. -/
theorem Faithful.wait (faithful : Faithful plan peers pool) (elsewhere : number ∉ pool.numbers)
    (found : peers[number]? = some peer) (untaken : records pool.log number = []) :
    Faithful plan peers { pool with queue := pool.queue ++ [(number, peer)] } := by
  refine ⟨faithful.counted, ?_, faithful.served, ?_, faithful.heard, faithful.unknown,
    faithful.limiter⟩
  · have last : pool.serving.map Prod.fst ++ (pool.queue ++ [(number, peer)]).map Prod.fst
        = pool.numbers ++ [number] := by
      rw [List.map_append, ← List.append_assoc]
      rfl
    unfold numbers
    rw [last, ← List.concat_eq_append]
    exact (List.nodup_concat _ _).mpr ⟨elsewhere, faithful.distinct⟩
  · intro entry member
    rcases List.mem_append.mp member with earlier | last
    · exact faithful.waiting entry earlier
    · obtain rfl := List.mem_singleton.mp last
      exact ⟨found, untaken⟩

/-- A turn on a connection that the pool without it neither serves nor has waiting. -/
theorem Faithful.settle (faithful : Faithful plan peers pool) (elsewhere : number ∉ pool.numbers)
    (found : peers[number]? = some peer) {turn : Turn}
    (leaves : turn.session.Leaves plan.service.lineLimit peer
      (records pool.log number ++ turn.exchanges.map (·, turn.session.reachable)))
    (served : Serves plan.service.tuning pool.limiter turn.exchanges turn.limiter) :
    Faithful plan peers (pool.settle number turn) := by
  have recorded := faithful.record elsewhere found
    (leaves.elim Session.Attends.heard And.right) served
  unfold Pool.settle
  dsimp only
  cases isOver : turn.session.isOver with
  | true =>
      have closed : Closings [.closed number turn.session.reachable] := fun event member =>
        ⟨_, _, List.mem_singleton.mp member⟩
      exact recorded.restrict _ (.refl _) (fun entry member => ⟨_, member, id⟩)
        (List.Subset.refl _) closed pool.phase
  | false =>
      have attends := leaves.resolve_right fun ended => by
        rw [isOver] at ended
        exact Bool.noConfusion ended.1
      rw [← records_append_turn] at attends
      exact recorded.serve elsewhere found attends

end

theorem settle_withQueue (pool : Pool) (number : Nat) (turn : Turn) (queue : List (Nat × Inbox)) :
    { pool.settle number turn with queue } = { pool with queue }.settle number turn := by
  unfold Pool.settle
  dsimp only
  split <;> rfl

/-- Handing waiting connections to free workers. -/
theorem Faithful.takeUpFrom {waiting : List (Nat × Inbox)}
    (faithful : Faithful plan peers { pool with queue := waiting }) :
    Faithful plan peers (pool.takeUpFrom plan waiting) := by
  induction waiting generalizing pool with
  | nil => exact faithful
  | cons entry rest inductionHypothesis =>
      obtain ⟨number, inbox⟩ := entry
      unfold Pool.takeUpFrom
      split
      · refine inductionHypothesis ?_
        rw [settle_withQueue]
        obtain ⟨found, untouched⟩ := faithful.waiting (number, inbox) List.mem_cons_self
        have fewer : (pool.serving.map Prod.fst ++ rest.map Prod.fst).Sublist
            (numbers { pool with queue := (number, inbox) :: rest }) :=
          List.Sublist.append_left (List.sublist_cons_self number _) _
        have others : Faithful plan peers { pool with queue := rest } := by
          simpa only [List.append_nil] using faithful.restrict [] fewer
            (fun entry member => ⟨_, member, id⟩) (List.subset_cons_self _ _)
            (fun _ member => nomatch member) pool.phase
        have elsewhere : number ∉ numbers { pool with queue := rest } :=
          (List.nodup_cons.mp (List.nodup_middle.mp faithful.distinct)).1
        obtain ⟨leaves, served⟩ := inbox.leaves_takeUp plan.service pool.limiter
        rw [← List.nil_append (List.map _ _), ← untouched] at leaves
        exact others.settle elsewhere found leaves served
      · exact faithful

/-- What follows by itself. -/
theorem Faithful.proceed (faithful : Faithful plan peers pool) :
    Faithful plan peers (pool.proceed plan) := by
  unfold Pool.proceed
  split
  · exact faithful.takeUpFrom
  · split
    · have fewer : (pool.serving.map Prod.fst ++ []).Sublist pool.numbers :=
        List.Sublist.append_left (List.nil_sublist _) _
      refine faithful.restrict _ fewer (fun entry member => ⟨_, member, id⟩) (List.nil_subset _) ?_ _
      intro event member
      obtain ⟨entry, _, rfl⟩ := List.mem_map.mp member
      exact ⟨_, _, rfl⟩
    · exact faithful
  · exact faithful

/-- A connection arrives, and so far it neither waits nor is served. -/
theorem Faithful.arrive (faithful : Faithful plan peers pool) (inbox : Inbox) :
    Faithful plan (peers ++ [inbox]) { pool with arrivals := pool.arrivals + 1 } := by
  have untouched : records pool.log peers.length = [] := faithful.unknown _ (Nat.le_refl _)
  have before {number : Nat} {peer : Inbox} (found : peers[number]? = some peer) :
      (peers ++ [inbox])[number]? = some peer := by
    rw [List.getElem?_append_left (List.getElem?_eq_some_iff.mp found).1, found]
  refine ⟨?_, faithful.distinct, ?_, ?_, ?_, ?_, faithful.limiter⟩
  · rw [List.length_append, ← faithful.counted]
    rfl
  · intro entry member
    obtain ⟨peer, found, attends⟩ := faithful.served entry member
    exact ⟨peer, before found, attends⟩
  · intro entry member
    obtain ⟨found, untaken⟩ := faithful.waiting entry member
    exact ⟨before found, untaken⟩
  · intro number peer found
    rcases Nat.lt_trichotomy number peers.length with known | same | beyond
    · rw [List.getElem?_append_left known] at found
      exact faithful.heard number peer found
    · dsimp only
      rw [same, untouched]
      exact peer.heard_nil _
    · have absent : (peers ++ [inbox])[number]? = none := by
        rw [List.getElem?_eq_none_iff, List.length_append, List.length_singleton]
        omega
      rw [absent] at found
      cases found
  · intro number beyond
    rw [List.length_append] at beyond
    exact faithful.unknown number (by omega)

/-- A submitted connection waits, is taken up at once, or is closed unread. -/
theorem Faithful.submit (faithful : Faithful plan peers pool) (inbox : Inbox) :
    Faithful plan (peers ++ [inbox]) (pool.submit plan inbox).pool := by
  have arrived := faithful.arrive inbox
  have turnedAway : Faithful plan (peers ++ [inbox])
      (turnAway { pool with arrivals := pool.arrivals + 1 } [(pool.arrivals, inbox)]) :=
    arrived.restrict _ (.refl _) (fun entry member => ⟨_, member, id⟩) (List.Subset.refl _)
      (fun event member => ⟨_, _, List.mem_singleton.mp member⟩) pool.phase
  unfold Pool.submit
  dsimp only
  split
  · exact turnedAway
  · split
    · have elsewhere : pool.arrivals ∉ pool.numbers := fun present =>
        Nat.lt_irrefl _ (faithful.counted ▸ faithful.lt_of_mem_numbers present)
      have found : (peers ++ [inbox])[pool.arrivals]? = some inbox := by
        rw [faithful.counted]
        exact List.getElem?_concat_length
      exact (arrived.wait elsewhere found
        (faithful.unknown _ (Nat.le_of_eq faithful.counted.symm))).proceed
    · exact turnedAway

section Finding

variable {serving : List (Nat × Session)} {number : Nat} {session : Session}

theorem mem_of_lookup (found : serving.lookup number = some session) :
    (number, session) ∈ serving := by
  obtain ⟨before, after, rfl, _⟩ := List.lookup_eq_some_iff.mp found
  exact List.mem_append_right _ List.mem_cons_self

theorem lookup_eq_none_iff :
    serving.lookup number = none ↔ number ∉ serving.map Prod.fst := by
  rw [List.lookup_eq_none_iff, List.mem_map, not_exists]
  refine forall_congr' fun entry => ?_
  rw [not_and]
  refine imp_congr_right fun _ => ?_
  exact bne_iff_ne.trans ne_comm

theorem lookup_of_mem (distinct : (serving.map Prod.fst).Nodup)
    (member : (number, session) ∈ serving) : serving.lookup number = some session := by
  obtain ⟨before, after, rfl⟩ := List.append_of_mem member
  refine List.lookup_eq_some_iff.mpr ⟨before, after, rfl, fun entry present => ?_⟩
  rw [List.map_append, List.map_cons, List.nodup_middle, List.nodup_cons,
    ← List.map_append] at distinct
  simpa using fun same : number = entry.1 =>
    distinct.1 (List.mem_map.mpr ⟨entry, List.mem_append_left _ present, same.symm⟩)

/-- What a peer does on a connection that waits leaves the numbers as they are. -/
theorem map_fst_onInbox (number : Nat) (action : PeerAction) (queue : List (Nat × Inbox)) :
    (queue.map fun entry =>
        if entry.1 = number then (number, action.onInbox entry.2) else entry).map Prod.fst
      = queue.map Prod.fst := by
  rw [List.map_map]
  refine List.map_congr_left fun entry _ => ?_
  by_cases same : entry.1 = number <;> simp [same]

end Finding

/-- What a peer does on a connection that no worker serves. -/
theorem Faithful.actUnserved (faithful : Faithful plan peers pool) {number : Nat}
    (unserved : number ∉ pool.serving.map Prod.fst) (action : PeerAction) :
    Faithful plan (peers.modify number action.onInbox)
      { pool with
        queue := pool.queue.map fun entry =>
          if entry.1 = number then (number, action.onInbox entry.2) else entry } := by
  have sameNumbers := map_fst_onInbox number action pool.queue
  refine ⟨?_, ?_, ?_, ?_, ?_, ?_, faithful.limiter⟩
  · rw [List.length_modify]
    exact faithful.counted
  · unfold numbers
    dsimp only
    rw [sameNumbers]
    exact faithful.distinct
  · intro entry member
    have different : number ≠ entry.1 := fun same =>
      unserved (List.mem_map.mpr ⟨entry, member, same.symm⟩)
    rw [List.getElem?_modify_ne _ _ different]
    exact faithful.served entry member
  · intro entry member
    obtain ⟨old, present, rfl⟩ := List.mem_map.mp member
    obtain ⟨found, untaken⟩ := faithful.waiting old present
    by_cases same : old.1 = number
    · rw [if_pos same]
      dsimp only
      rw [← same, List.getElem?_modify_eq, found]
      exact ⟨rfl, untaken⟩
    · rw [if_neg same, List.getElem?_modify_ne _ _ (Ne.symm same)]
      exact ⟨found, untaken⟩
  · intro other peer found
    by_cases same : number = other
    · subst same
      rw [List.getElem?_modify_eq] at found
      obtain ⟨old, oldFound, rfl⟩ := Option.map_eq_some_iff.mp found
      exact (faithful.heard number old oldFound).onInbox action
    · rw [List.getElem?_modify_ne _ _ same] at found
      exact faithful.heard other peer found
  · intro other beyond
    rw [List.length_modify] at beyond
    exact faithful.unknown other beyond

/-- Taking a session out of the pool, to go on with it. -/
theorem Faithful.takeOut (faithful : Faithful plan peers pool) {number : Nat} {session : Session}
    (served : (number, session) ∈ pool.serving) :
    let others := { pool with serving := pool.serving.filter (·.1 ≠ number) }
    Faithful plan peers others ∧ number ∉ others.numbers := by
  intro others
  have fewer : others.numbers.Sublist pool.numbers :=
    List.Sublist.append_right (List.filter_sublist.map _) _
  refine ⟨?_, fun present => ?_⟩
  · simpa only [List.append_nil] using faithful.restrict [] fewer
      (fun entry member => ⟨_, List.mem_of_mem_filter member, id⟩) (List.Subset.refl _)
      (fun _ member => nomatch member) pool.phase
  · rcases List.mem_append.mp present with still | waiting
    · obtain ⟨entry, member, same⟩ := List.mem_map.mp still
      have kept := List.of_mem_filter (p := fun entry : Nat × Session => entry.1 ≠ number) member
      exact of_decide_eq_true kept same
    · exact List.disjoint_of_nodup_append faithful.distinct
        (List.mem_map.mpr ⟨_, served, rfl⟩) waiting

/-- What a peer does on any connection. -/
theorem Faithful.act (faithful : Faithful plan peers pool) (number : Nat) (action : PeerAction) :
    Faithful plan (peers.modify number action.onInbox) (pool.act plan number action) := by
  unfold Pool.act
  cases lookedUp : pool.serving.lookup number with
  | none =>
      exact faithful.actUnserved (lookup_eq_none_iff.mp lookedUp) action
  | some session =>
      have served := mem_of_lookup lookedUp
      obtain ⟨peer, found, attends⟩ := faithful.served _ served
      obtain ⟨others, elsewhere⟩ := faithful.takeOut served
      have unserved := mt (List.mem_append_left _) elsewhere
      have acted := others.actUnserved unserved action
      have notWaiting : ∀ entry ∈ pool.queue, entry.1 ≠ number := fun entry member same =>
        elsewhere (List.mem_append_right _ (List.mem_map.mpr ⟨entry, member, same⟩))
      have unchanged : (pool.queue.map fun entry =>
          if entry.1 = number then (number, action.onInbox entry.2) else entry) = pool.queue :=
        (List.map_congr_left fun entry member => if_neg (notWaiting entry member)).trans
          (List.map_id _)
      dsimp only at acted ⊢
      rw [unchanged] at acted
      have foundNow : (peers.modify number action.onInbox)[number]? = some (action.onInbox peer) := by
        rw [List.getElem?_modify_eq, found]
        rfl
      obtain ⟨leaves, accounts⟩ := attends.onTurn pool.limiter action
      exact (acted.settle elsewhere foundNow leaves accounts).proceed

/-- Changing every session in a way that keeps those attending that are not over. -/
theorem Faithful.changeSessions (faithful : Faithful plan peers pool) {change : Session → Session}
    (keeps : ∀ {session : Session} {peer records},
      session.Attends plan.service.lineLimit peer records → (change session).isOver = false →
        (change session).Attends plan.service.lineLimit peer records) (phase : Phase) :
    Faithful plan peers { pool.changeSessions change with phase } := by
  have sameNumbers : (pool.serving.map fun entry => (entry.1, change entry.2)).map Prod.fst
      = pool.serving.map Prod.fst := by
    rw [List.map_map]
    rfl
  refine faithful.restrict _ ?_ ?_ (List.Subset.refl _) ?_ phase
  · rw [numbers, ← sameNumbers]
    exact List.Sublist.append_right (List.filter_sublist.map _) _
  · intro entry member
    obtain ⟨changed, isOpen⟩ := List.mem_filter.mp member
    obtain ⟨old, present, rfl⟩ := List.mem_map.mp changed
    exact ⟨old.2, present, fun attends => keeps attends (by simpa using isOpen)⟩
  · intro event member
    obtain ⟨entry, _, rfl⟩ := List.mem_map.mp member
    exact ⟨_, _, rfl⟩

end Pool

/-- A session that goes on after hearing of a shutdown goes on attending to its peer. -/
theorem Session.Attends.stop {limit : Nat} {session : Session} {peer : Inbox}
    {records : List (Exchange × Bool)} (attends : session.Attends limit peer records)
    (goesOn : session.stop.isOver = false) : session.stop.Attends limit peer records := by
  obtain ⟨sending, receiving, exchanges, recordsEq, current⟩ := attends
  have signaled : session.signal = { session with stopping := true } :=
    if_neg (by simp [current.isOpen])
  revert goesOn
  unfold Session.stop Session.heed
  rw [signaled]
  split
  · exact fun _ => ⟨sending, receiving, exchanges, recordsEq, current.isOpen, current.begun,
      current.room, current.answered⟩
  · exact fun ended => nomatch ended

theorem Session.isOver_abort (session : Session) : session.abort.isOver := by
  unfold Session.abort
  split
  · assumption
  · rfl

namespace Pool

variable {plan : Plan} {peers : List Inbox} {pool : Pool}

theorem Faithful.beginShutdown (faithful : Faithful plan peers pool) :
    Faithful plan peers (pool.beginShutdown plan) := by
  unfold Pool.beginShutdown
  split
  · exact (faithful.changeSessions Session.Attends.stop .draining).proceed
  · exact faithful

theorem Faithful.endShutdown (faithful : Faithful plan peers pool) :
    Faithful plan peers (pool.endShutdown plan) := by
  unfold Pool.endShutdown
  split
  · refine (faithful.changeSessions (fun _ goesOn => ?_) pool.phase).proceed
    rw [Session.isOver_abort] at goesOn
    cases goesOn
  · exact faithful

/-- One action. -/
theorem Faithful.perform (faithful : Faithful plan peers pool) (action : Action) :
    Faithful plan (action.onPeers peers) (pool.perform plan action) := by
  cases action with
  | submit inbox => exact faithful.submit inbox
  | act number action => exact faithful.act number action
  | beginShutdown => exact faithful.beginShutdown
  | endShutdown => exact faithful.endShutdown
  | shutdown milliseconds => exact faithful.beginShutdown.endShutdown

/-- Any actions. -/
theorem faithful_run (plan : Plan) (actions : List Action) :
    Faithful plan (peersAfter actions) (run plan actions) := by
  induction actions using List.reverseRecOn with
  | nil => exact faithful_fresh plan
  | append_singleton earlier action inductionHypothesis =>
      rw [peersAfter, run, List.foldl_append, List.foldl_append]
      exact inductionHypothesis.perform action

end Pool

end AdmissionControl
