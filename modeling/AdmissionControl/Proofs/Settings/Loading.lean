import AdmissionControl.Proofs.Settings.Origins
import AdmissionControl.Proofs.Settings.Standard

/-!
# What settings are loaded

With a library that merges its sources key by key, settings are loaded exactly if each of them can
take what it has from the environment or else from the file, and the record that they make is
acceptable.
-/

namespace AdmissionControl

open Text

namespace Setting

open Settings

/-- The value of a setting in a record of settings, written down as what it is. -/
def written (settings : Settings) (origin : Option Origin) : Setting → Tree
  | .enabled => .scalar (.flag settings.enabled) origin
  | .socketPath => .scalar (.text settings.socketPath) origin
  | .workers => .scalar (.whole settings.workers.toNat) origin
  | .targetMilliseconds => .scalar (.whole settings.targetMilliseconds.toNat) origin
  | .step => .scalar (.whole settings.step.toNat) origin
  | .decrease => .scalar (.real settings.decrease) origin
  | .drainMilliseconds => .scalar (.whole settings.drainMilliseconds.toNat) origin
  | .lineLimit => .scalar (.whole settings.lineLimit.toNat) origin
  | .connectMilliseconds => .scalar (.whole settings.connectMilliseconds.toNat) origin
  | .retryAfterSeconds => .scalar (.whole settings.retryAfterSeconds.toNat) origin
  | .warnSeconds => .scalar (.whole settings.warnSeconds.toNat) origin
  | .unsampledPrefixes =>
      .list (settings.unsampledPrefixes.map fun text => .scalar (.text text) origin) origin
  | .authCookie => .scalar (.text settings.authCookie) origin

/-- What a setting takes that is written down as what it is counts as it is. -/
theorem takes_written_iff {library : Library} (converts : library.Converts)
    (setting : Setting) (usual settings other : Settings) (origin : Option Origin) :
    setting.Takes library usual settings (some (setting.written other origin))
      ↔ setting.Takes library other settings none := by
  cases setting with
  | enabled => exact iff_of_eq (congrArg (· = _) (converts.flag _ _))
  | workers | targetMilliseconds | drainMilliseconds | lineLimit | connectMilliseconds
  | retryAfterSeconds | warnSeconds => exact iff_of_eq (congrArg (· = _) (converts.word64 _ _))
  | step => exact iff_of_eq (congrArg (· = _) (converts.word32 _ _))
  | decrease => exact iff_of_eq (congrArg (· = _) (converts.real _ _))
  | socketPath | authCookie => exact iff_of_eq (congrArg (· = _) (converts.text _ _ nofun))
  | unsampledPrefixes => exact iff_of_eq (congrArg (· = _) (converts.texts _ _))

end Setting

namespace Settings

open Setting

/-- A record of settings is combined from the entries of a file and the variables of an environment.
Each setting has its value from one of them, or its usual value; nothing but a group is given in the
place of a group, and nothing below a setting. -/
structure Combines (library : Library) (usual settings : Settings)
    (entries : List (List Char × Tree)) (environment : List (List Char × List Char)) : Prop where
  values : ∀ setting : Setting, setting.Comes library usual settings entries environment
  groups : ∀ group ∈ groups,
    (∀ entry ∈ environment, namesOf? entry.1 ≠ some [group.toList])
      ∧ (IsInto environment group
        ∨ ∀ value origin, Tree.named? entries group.toList ≠ some (.scalar value origin))
  ends : ∀ setting : Setting, ∀ entry ∈ environment, ∀ below, below ≠ [] →
    namesOf? entry.1 ≠ some (setting.names ++ below)
  valid : settings.validate = .ok ()

variable {library : Library} {usual settings : Settings} {file : Option File}
variable {sources : List Source} {environment : List (List Char × List Char)}

section Library

variable (converts : library.Converts)
include converts

/-- Two layers are read as the settings that take, each for itself, what they give to them. -/
theorem ofTree_eq_ok_iff_of_merges (merging : library.Merges sources environment) :
    library.ofTree usual (library.build (sources ++ [library.readVariables environment]))
        = .ok settings
      ↔ (∀ group ∈ groups, isGroup
          (groupOfBoth (library.build sources) (library.environmentTree environment) group) = true)
        ∧ ∀ setting : Setting, setting.Takes library usual settings
          (setting.combined (library.build sources) (library.environmentTree environment)) := by
  rw [ofTree_eq_ok_iff]
  simp only [merging.isGroup_merged]
  refine and_congr_right fun areGroups => forall_congr' fun setting => ?_
  exact takes_merges converts
    (merging.merges_inTree? setting fun group stands => areGroups group (group_mem stands))

/-- Settings are loaded that take, each for itself, what the layers give to them, and that are
acceptable. -/
theorem load_eq_ok_iff
    (merges : ∀ sources, library.sourcesOf file = .ok sources →
      library.Merges sources environment) :
    library.load usual file environment = .ok settings
      ↔ ∃ sources, library.sourcesOf file = .ok sources
        ∧ (∀ group ∈ groups, isGroup (groupOfBoth (library.build sources)
          (library.environmentTree environment) group) = true)
        ∧ (∀ setting : Setting, setting.Takes library usual settings
          (setting.combined (library.build sources) (library.environmentTree environment)))
        ∧ settings.validate = .ok () := by
  simp only [Library.load, Library.combine, bind_eq_ok_iff, mapError_eq_ok_iff, pure, Except.pure,
    Except.ok.injEq]
  constructor
  · rintro ⟨_, ⟨sources, read, combined⟩, _, valid, rfl⟩
    obtain ⟨areGroups, takes⟩ :=
      (ofTree_eq_ok_iff_of_merges converts (merges sources read)).mp combined
    exact ⟨sources, read, areGroups, takes, valid⟩
  · rintro ⟨sources, read, areGroups, takes, valid⟩
    have combined :=
      (ofTree_eq_ok_iff_of_merges converts (merges sources read)).mpr ⟨areGroups, takes⟩
    exact ⟨settings, ⟨sources, read, combined⟩, (), valid, rfl⟩

/-- A setting that takes what two layers give to it has its value from a variable or the file, or
its usual one. -/
theorem comes_of_takes (merging : library.Merges sources environment)
    (areGroups : ∀ group ∈ groups, isGroup
      (groupOfBoth (library.build sources) (library.environmentTree environment) group) = true)
    {setting : Setting} (takes : setting.Takes library usual settings
      (setting.combined (library.build sources) (library.environmentTree environment))) :
    setting.Comes library usual settings sources.flatten environment := by
  rw [combined] at takes
  cases given : Tree.at? (some (library.environmentTree environment)) setting.names with
  | none =>
      rw [given, Option.none_or] at takes
      have unset := merging.unset_of_at?_eq_none areGroups given
      by_cases lost : setting.IsLost sources.flatten environment
      · rw [merging.base_of_isLost lost] at takes
        exact .usual unset (.inr lost) takes
      rw [merging.base_of_not_isLost lost, merging.takes_inTree?_iff converts] at takes
      cases inFile : setting.inEntries? sources.flatten with
      | none => exact .usual unset (.inl inFile) (inFile ▸ takes)
      | some value => exact .fromFile unset inFile lost (inFile ▸ takes)
  | some tree =>
      rw [given, Option.some_or] at takes
      cases isTable : tree.isTable with
      | true => exact absurd takes (not_takes_table converts isTable)
      | false =>
          obtain ⟨entry, member, spelled, rfl⟩ := merging.value _ tree given isTable
          exact .fromVariable member (decide_eq_true spelled) takes

/-- If no variable is like another one and none leads further than to the setting, the converse
holds as well. -/
theorem takes_of_comes (merging : library.Merges sources environment)
    (unambiguous : IsUnambiguous environment) {setting : Setting}
    (ends : ∀ entry ∈ environment, ∀ below, below ≠ [] →
      namesOf? entry.1 ≠ some (setting.names ++ below))
    (comes : setting.Comes library usual settings sources.flatten environment) :
    setting.Takes library usual settings
      (setting.combined (library.build sources) (library.environmentTree environment)) := by
  have at?_of_unset (unset : ∀ entry ∈ environment, setting.isNamedBy entry.1 = false) :
      Tree.at? (some (library.environmentTree environment)) setting.names = none := by
    by_contra given
    obtain ⟨tree, given⟩ := Option.ne_none_iff_exists'.mp given
    cases isTable : tree.isTable with
    | true =>
        obtain ⟨entry, member, below, more, spelled⟩ :=
          merging.way _ tree given isTable (by rw [names]; split <;> simp)
        exact ends entry member below more spelled
    | false =>
        obtain ⟨entry, member, spelled, _⟩ := merging.value _ tree given isTable
        exact of_decide_eq_false (unset entry member) spelled
  rw [combined]
  cases comes with
  | fromVariable member sets takes =>
      rwa [merging.at?_of_isUnambiguous unambiguous member (of_decide_eq_true sets)]
  | fromFile unset given kept takes =>
      rwa [at?_of_unset unset, Option.none_or, merging.base_of_not_isLost kept,
        merging.takes_inTree?_iff converts, given]
  | usual unset missing takes =>
      rw [at?_of_unset unset, Option.none_or]
      by_cases lost : setting.IsLost sources.flatten environment
      · rwa [merging.base_of_isLost lost]
      · rwa [merging.base_of_not_isLost lost, merging.takes_inTree?_iff converts,
          missing.resolve_right lost]

/-- A record is combined exactly if it is read from two layers, if no variable is like another
one. -/
theorem combines_iff (merging : library.Merges sources environment)
    (unambiguous : IsUnambiguous environment) :
    Combines library usual settings sources.flatten environment
      ↔ (∀ group ∈ groups, isGroup (groupOfBoth (library.build sources)
          (library.environmentTree environment) group) = true)
        ∧ (∀ setting : Setting, setting.Takes library usual settings
          (setting.combined (library.build sources) (library.environmentTree environment)))
        ∧ settings.validate = .ok () := by
  constructor
  · rintro ⟨values, areGroups, ends, valid⟩
    refine ⟨fun group isMember => ?_, fun setting =>
      takes_of_comes converts merging unambiguous (ends setting) (values setting), valid⟩
    obtain ⟨noVariable, isGroup⟩ := areGroups group isMember
    rw [groupOfBoth]
    cases given : Tree.child? (some (library.environmentTree environment)) group.toList with
    | none =>
        have apart : ¬ IsInto environment group := by
          simp [← merging.isSome_group_iff, given]
        exact (merging.isGroup_groupOf_iff group).mpr (isGroup.resolve_left apart)
    | some tree =>
        cases tree with
        | list | table => rfl
        | scalar value origin =>
            obtain ⟨entry, member, spelled, _⟩ := merging.value [group.toList] _ given rfl
            exact absurd spelled (noVariable entry member)
  · rintro ⟨areGroups, takes, valid⟩
    refine ⟨fun setting => comes_of_takes converts merging areGroups (takes setting),
      fun group isMember => ⟨fun entry member spelled => ?_, ?_⟩,
      fun setting entry member below more spelled => ?_, valid⟩
    · have isGroup := areGroups group isMember
      have given : Tree.child? (some (library.environmentTree environment)) group.toList = _ :=
        merging.at?_of_isUnambiguous unambiguous member spelled
      rw [groupOfBoth, given] at isGroup
      cases isGroup
    · rw [← merging.isSome_group_iff, ← merging.isGroup_groupOf_iff]
      have isGroup := areGroups group isMember
      rw [groupOfBoth] at isGroup
      cases given : Tree.child? (some (library.environmentTree environment)) group.toList with
      | none => exact .inr (by rwa [given] at isGroup)
      | some tree => exact .inl rfl
    · have stands := merging.at?_of_isUnambiguous unambiguous member spelled
      have takesThis := takes setting
      rw [combined] at takesThis
      rw [Tree.at?_append] at stands
      cases given : Tree.at? (some (library.environmentTree environment)) setting.names with
      | none =>
          rw [given, Tree.at?_none] at stands
          cases stands
      | some tree =>
          rw [given, Option.some_or] at takesThis
          cases isTable : tree.isTable with
          | true => exact not_takes_table converts isTable takesThis
          | false =>
              rw [given, Tree.at?_of_leaf isTable more] at stands
              cases stands

/-- A record that is loaded has each setting from a variable or the file, or as usual. -/
theorem exists_comes_of_load
    (merges : ∀ sources, library.sourcesOf file = .ok sources → library.Merges sources environment)
    (loaded : library.load usual file environment = .ok settings) :
    ∃ sources, library.sourcesOf file = .ok sources
      ∧ ∀ setting : Setting, setting.Comes library usual settings sources.flatten environment := by
  obtain ⟨sources, read, areGroups, takes, _⟩ := (load_eq_ok_iff converts merges).mp loaded
  exact ⟨sources, read, fun setting =>
    comes_of_takes converts (merges sources read) areGroups (takes setting)⟩

/-- If no variable is like another one, a record is loaded exactly if it is combined. -/
theorem load_eq_ok_iff_combines
    (merges : ∀ sources, library.sourcesOf file = .ok sources → library.Merges sources environment)
    (unambiguous : IsUnambiguous environment) :
    library.load usual file environment = .ok settings
      ↔ ∃ sources, library.sourcesOf file = .ok sources
        ∧ Combines library usual settings sources.flatten environment := by
  rw [load_eq_ok_iff converts merges]
  refine exists_congr fun sources => and_congr_right fun read => ?_
  exact (combines_iff converts (merges sources read) unambiguous).symm

end Library

/-- The layers of settings, with any library that merges its sources key by key. Settings are loaded
exactly if the file can be read, each group can be, each setting can take what the environment gives
to it, or else what the file does, and the settings are acceptable. So each setting has its value
from a variable that sets it, or else from the file, or else its usual one, whatever the others
have; and if no variable is like another one, this is all that it takes. A value that is written
down as what it is counts as it is. -/
theorem load_combines_layers (library : Library) (usual : Settings) (file : Option File)
    (environment : List (List Char × List Char)) (converts : library.Converts)
    (merges : ∀ sources, library.sourcesOf file = .ok sources →
      library.Merges sources environment) :
    (∀ settings, library.load usual file environment = .ok settings
      ↔ ∃ sources, library.sourcesOf file = .ok sources
        ∧ (∀ group ∈ groups, isGroup (groupOfBoth (library.build sources)
          (library.environmentTree environment) group) = true)
        ∧ (∀ setting : Setting, setting.Takes library usual settings
          (setting.combined (library.build sources) (library.environmentTree environment)))
        ∧ settings.validate = .ok ())
    ∧ (∀ settings, library.load usual file environment = .ok settings →
        ∃ sources, library.sourcesOf file = .ok sources ∧ ∀ setting : Setting,
          setting.Comes library usual settings sources.flatten environment)
    ∧ (IsUnambiguous environment → ∀ settings,
        library.load usual file environment = .ok settings
          ↔ ∃ sources, library.sourcesOf file = .ok sources
            ∧ Combines library usual settings sources.flatten environment)
    ∧ ∀ (setting : Setting) (settings other : Settings) (origin : Option Origin),
        setting.Takes library usual settings (some (setting.written other origin))
          ↔ setting.Takes library other settings none :=
  ⟨fun _ => load_eq_ok_iff converts merges,
    fun _ loaded => exists_comes_of_load converts merges loaded,
    fun unambiguous _ => load_eq_ok_iff_combines converts merges unambiguous,
    fun setting settings other => setting.takes_written_iff converts usual settings other⟩

/-- The file and the environment each set one value of a group, and both count. -/
theorem load_combines_layers_of_server :
    let file : File := ⟨"c.json".toList,
      "\x7b\"workers\": 3, \"server\": \x7b\"max_line_bytes\": 99\x7d\x7d".toList⟩
    let environment := [("LOAD_SHEDDER__SERVER__DRAIN_TIMEOUT_MS".toList, "7".toList)]
    (∀ sources, Library.standard.sourcesOf (some file) = .ok sources →
        Library.standard.Merges sources environment)
      ∧ load {} (some file) environment
        = .ok { workers := 3, drainMilliseconds := 7, lineLimit := 99 } := by
  intro file environment
  let origin : Option Origin := some (.file file.name)
  let server : List (List Char × Tree) := [("max_line_bytes".toList, .scalar (.whole 99) origin)]
  let entries : List (List Char × Tree) :=
    [("workers".toList, .scalar (.whole 3) origin), ("server".toList, .table server origin)]
  have read : Library.standard.sourcesOf (some file) = .ok [entries] := by rfl
  have clear : ∀ entry ∈ entries, entry.2.IsClear := by
    intro entry member
    simp only [entries, List.mem_cons, List.not_mem_nil, or_false] at member
    rcases member with rfl | rfl
    · exact .leaf rfl
    · refine .table origin (List.pairwise_singleton _ _) fun inner isInner => ?_
      rw [List.mem_singleton.mp isInner]
      exact .leaf rfl
  have plain : ArePlain entries := ⟨by decide, (by decide : List.Nodup _), clear⟩
  have only : ∀ entry ∈ environment, Setting.drainMilliseconds.isNamedBy entry.1 = true := by
    decide
  have merges (sources : List Source)
      (isRead : Library.standard.sourcesOf (some file) = .ok sources) :
      Library.standard.Merges sources environment := by
    obtain rfl := Except.ok.inj (read.symm.trans isRead)
    exact standard_merges plain (areSpelled_of_isNamedBy only)
  obtain ⟨loads, _⟩ :=
    load_combines_layers Library.standard {} (some file) environment standard_converts merges
  refine ⟨merges, (loads _).mpr ⟨_, read, by decide +kernel, fun setting => ?_, by decide +kernel⟩⟩
  cases setting <;> decide +kernel

/-- A group can be given as a list of values in order. A variable that sets one value of the group
takes the place of that list, and the other value is lost. -/
theorem load_of_list_for_server :
    let file : File := ⟨"c.json".toList, "\x7b\"server\": [7, 99]\x7d".toList⟩
    let environment := [("LOAD_SHEDDER__SERVER__DRAIN_TIMEOUT_MS".toList, "5".toList)]
    (∀ sources, Library.standard.sourcesOf (some file) = .ok sources →
        Library.standard.Merges sources [] ∧ Library.standard.Merges sources environment)
      ∧ load {} (some file) [] = .ok { drainMilliseconds := 7, lineLimit := 99 }
      ∧ load {} (some file) environment = .ok { drainMilliseconds := 5 } := by
  intro file environment
  let origin : Option Origin := some (.file file.name)
  let items : List Tree := [.scalar (.whole 7) origin, .scalar (.whole 99) origin]
  let entries : List (List Char × Tree) := [("server".toList, .list items origin)]
  have read : Library.standard.sourcesOf (some file) = .ok [entries] := by rfl
  have plain : ArePlain entries := by
    refine ⟨by decide, List.pairwise_singleton _ _, fun entry member => ?_⟩
    rw [List.mem_singleton.mp member]
    exact .leaf rfl
  have only : ∀ entry ∈ environment, Setting.drainMilliseconds.isNamedBy entry.1 = true := by
    decide
  refine ⟨fun sources isRead => ?_, by decide +kernel, by decide +kernel⟩
  obtain rfl := Except.ok.inj (read.symm.trans isRead)
  have none : ∀ entry ∈ ([] : List (List Char × List Char)),
      Setting.drainMilliseconds.isNamedBy entry.1 = true := nofun
  exact ⟨standard_merges plain (areSpelled_of_isNamedBy none),
    standard_merges plain (areSpelled_of_isNamedBy only)⟩

end Settings

end AdmissionControl
