import AdmissionControl.Proofs.Settings.Trees
import AdmissionControl.Settings.Load
import Mathlib.Data.List.Basic

/-!
# Settings one by one

Each setting has a place of its own: a name and a position, in one of the groups or outside of them.
A tree is read as the settings that take, each for itself, what stands at their places.
-/

namespace AdmissionControl

/-- The settings, one by one. -/
inductive Setting where
  | enabled
  | socketPath
  | workers
  | targetMilliseconds
  | step
  | decrease
  | drainMilliseconds
  | lineLimit
  | connectMilliseconds
  | retryAfterSeconds
  | warnSeconds
  | unsampledPrefixes
  | authCookie
deriving DecidableEq

namespace Settings

/-- The names of the groups. -/
def groups : List String := ["limiter", "server", "client", "middleware"]

/-- A group in a tree. One that is missing is empty. -/
def groupOf (tree : Tree) (group : String) : Tree :=
  (Tree.child? (some tree) group.toList).getD (.table [] none)

/-- Whether a tree can be read as a group. -/
def isGroup : Tree → Bool
  | .scalar _ _ => false
  | _ => true

/-- Whether a group is given as a list of values in order. -/
def isInOrder : Tree → Bool
  | .list _ _ => true
  | _ => false

/-- The value that a setting takes from its place: without one there, its usual value. -/
def take {α : Type} (convert : Tree → Except Mismatch α) (usual : α) :
    Option Tree → Except Mismatch α
  | none => .ok usual
  | some tree => convert tree

end Settings

namespace Setting

open Settings

/-- Where a setting stands. -/
structure Place where
  group? : Option String
  position : Nat
  name : String

/-- The place of a setting. -/
def place : Setting → Place
  | .enabled => ⟨none, 0, "enabled"⟩
  | .socketPath => ⟨none, 1, "socket_path"⟩
  | .workers => ⟨none, 2, "workers"⟩
  | .targetMilliseconds => ⟨none, 3, "target_p95_ms"⟩
  | .step => ⟨some "limiter", 0, "additive_step"⟩
  | .decrease => ⟨some "limiter", 1, "multiplicative_decrease"⟩
  | .drainMilliseconds => ⟨some "server", 0, "drain_timeout_ms"⟩
  | .lineLimit => ⟨some "server", 1, "max_line_bytes"⟩
  | .connectMilliseconds => ⟨some "client", 0, "connect_timeout_ms"⟩
  | .retryAfterSeconds => ⟨some "middleware", 0, "retry_after_secs"⟩
  | .warnSeconds => ⟨some "middleware", 1, "warn_interval_secs"⟩
  | .unsampledPrefixes => ⟨some "middleware", 2, "unsampled_path_prefixes"⟩
  | .authCookie => ⟨some "middleware", 3, "auth_cookie"⟩

/-- What a group gives to a setting. -/
def inGroup? (setting : Setting) (group : Tree) : Option Tree :=
  (given? group setting.place.position setting.place.name).map (·.2)

/-- What a tree gives to a setting. -/
def inTree? (setting : Setting) (tree : Tree) : Option Tree :=
  match setting.place.group? with
  | none => setting.inGroup? tree
  | some group => setting.inGroup? (groupOf tree group)

/-- A record of settings has the value that a setting takes from its place. -/
def Takes (library : Library) (usual settings : Settings) (source : Option Tree) : Setting → Prop
  | .enabled => take library.toFlag usual.enabled source = .ok settings.enabled
  | .socketPath => take library.toText usual.socketPath source = .ok settings.socketPath
  | .workers => take library.toWord64 usual.workers source = .ok settings.workers
  | .targetMilliseconds =>
      take library.toWord64 usual.targetMilliseconds source = .ok settings.targetMilliseconds
  | .step => take library.toWord32 usual.step source = .ok settings.step
  | .decrease => take library.toReal usual.decrease source = .ok settings.decrease
  | .drainMilliseconds =>
      take library.toWord64 usual.drainMilliseconds source = .ok settings.drainMilliseconds
  | .lineLimit => take library.toWord64 usual.lineLimit source = .ok settings.lineLimit
  | .connectMilliseconds =>
      take library.toWord64 usual.connectMilliseconds source = .ok settings.connectMilliseconds
  | .retryAfterSeconds =>
      take library.toWord64 usual.retryAfterSeconds source = .ok settings.retryAfterSeconds
  | .warnSeconds => take library.toWord64 usual.warnSeconds source = .ok settings.warnSeconds
  | .unsampledPrefixes =>
      take library.toTexts usual.unsampledPrefixes source = .ok settings.unsampledPrefixes
  | .authCookie => take library.toText usual.authCookie source = .ok settings.authCookie

instance (library : Library) (usual settings : Settings) (source : Option Tree)
    (setting : Setting) : Decidable (setting.Takes library usual settings source) :=
  match setting with
  | .enabled | .socketPath | .workers | .targetMilliseconds | .step | .decrease
  | .drainMilliseconds | .lineLimit | .connectMilliseconds | .retryAfterSeconds | .warnSeconds
  | .unsampledPrefixes | .authCookie => inferInstanceAs (Decidable (_ = _))

/-- A setting is given by name, if its group is not a list. -/
theorem inGroup?_of_not_inOrder (setting : Setting) {group : Tree}
    (named : isInOrder group = false) :
    setting.inGroup? group = Tree.child? (some group) setting.place.name.toList := by
  have given : given? group setting.place.position setting.place.name
      = (Tree.child? (some group) setting.place.name.toList).map
          fun value => (.key setting.place.name.toList, value) := by
    cases group with
    | list => cases named
    | scalar | table => rfl
  rw [inGroup?, given, Option.map_map]
  exact Option.map_id_apply

end Setting

namespace Settings

section Bind

variable {ε α β : Type}

theorem bind_eq_ok_iff {first : Except ε α} {next : α → Except ε β} {result : β} :
    first >>= next = .ok result ↔ ∃ value, first = .ok value ∧ next value = .ok result := by
  cases first with
  | error fault => simp [bind, Except.bind]
  | ok value => simp [bind, Except.bind]

theorem mapError_eq_ok_iff {φ : Type} {change : ε → φ} {outcome : Except ε α} {value : α} :
    outcome.mapError change = .ok value ↔ outcome = .ok value := by
  cases outcome <;> simp [Except.mapError]

end Bind

variable {library : Library} {usual settings : Settings} {tree group : Tree}

/-- A setting is read as it takes what its group gives. -/
theorem readEntry_eq_ok_iff {α : Type} {position : Nat} {name : String}
    {convert : Tree → Except Mismatch α} {usual value : α} :
    readEntry group position name convert usual = .ok value
      ↔ take convert usual ((given? group position name).map (·.2)) = .ok value := by
  unfold readEntry
  cases given? group position name with
  | none => rfl
  | some given => exact mapError_eq_ok_iff

/-- A group is read if it is none of the scalars. -/
theorem readGroup_eq_ok_iff {α : Type} {name kind : String} {read : Tree → Except Mismatch α}
    {value : α} :
    readGroup tree name kind read = .ok value
      ↔ isGroup (groupOf tree name) = true ∧ read (groupOf tree name) = .ok value := by
  have unfolded : groupOf tree name
      = ((Tree.asTable (some tree)).1.lookup name.toList).getD (.table [] none) := rfl
  rw [unfolded, readGroup]
  cases (Tree.asTable (some tree)).1.lookup name.toList with
  | none => simp [isGroup]
  | some group =>
      cases group with
      | scalar => simp [isGroup]
      | list | table => simp [isGroup, mapError_eq_ok_iff]

/-- A tree is read as the settings that take, each for itself, what stands at their places. -/
theorem ofTree_eq_ok_iff :
    library.ofTree usual tree = .ok settings
      ↔ (∀ group ∈ groups, isGroup (groupOf tree group) = true)
        ∧ ∀ setting : Setting, setting.Takes library usual settings (setting.inTree? tree) := by
  simp only [Library.ofTree, Library.readGeneral, Library.readLimiter, Library.readServer,
    Library.readClient, Library.readGate, bind_eq_ok_iff, readGroup_eq_ok_iff,
    readEntry_eq_ok_iff, pure, Except.pure, Except.ok.injEq]
  constructor
  · rintro ⟨_, ⟨_, enabled, _, socketPath, _, workers, _, target, rfl⟩,
      _, ⟨isLimiter, _, step, _, decrease, rfl⟩, _, ⟨isServer, _, drain, _, lineLimit, rfl⟩,
      _, ⟨isClient, _, connect, rfl⟩,
      isGate, _, retryAfter, _, warn, _, unsampled, _, authCookie, rfl⟩
    refine ⟨by simp [groups, isLimiter, isServer, isClient, isGate], fun setting => ?_⟩
    cases setting <;> assumption
  · rintro ⟨areGroups, takes⟩
    simp only [groups, List.forall_mem_cons] at areGroups
    obtain ⟨isLimiter, isServer, isClient, isGate, _⟩ := areGroups
    exact ⟨_, ⟨_, takes .enabled, _, takes .socketPath, _, takes .workers, _,
        takes .targetMilliseconds, rfl⟩,
      _, ⟨isLimiter, _, takes .step, _, takes .decrease, rfl⟩,
      _, ⟨isServer, _, takes .drainMilliseconds, _, takes .lineLimit, rfl⟩,
      _, ⟨isClient, _, takes .connectMilliseconds, rfl⟩,
      isGate, _, takes .retryAfterSeconds, _, takes .warnSeconds, _, takes .unsampledPrefixes, _,
      takes .authCookie, rfl⟩

end Settings

end AdmissionControl
