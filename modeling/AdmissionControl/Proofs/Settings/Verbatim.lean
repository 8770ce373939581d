import AdmissionControl.Proofs.Session.Carriage
import AdmissionControl.Proofs.Settings.Loading
import AdmissionControl.Proofs.Text.Numerals

/-!
# Texts from the environment

A setting that takes a text gets from a variable what the value of the variable is written as. That
is the text itself, unless it reads as a flag or a number that is written otherwise.
-/

namespace AdmissionControl

open Text

namespace Settings

/-- What the text of a variable means. -/
inductive Means (text : List Char) : Scalar → Prop where
  | flag (value : Bool) (isWord : lowerCase text = flagWord value) : Means text (.flag value)
  | whole {number : Int} (noFlag : ∀ flag, lowerCase text ≠ flagWord flag)
      (read : Numeral.readInt64? text = some number) : Means text (.whole number)
  | real {number : Binary64} (noFlag : ∀ flag, lowerCase text ≠ flagWord flag)
      (notWhole : Numeral.readInt64? text = none) (read : Binary64.read? text = some number) :
      Means text (.real number)
  | text (noFlag : ∀ flag, lowerCase text ≠ flagWord flag)
      (notWhole : Numeral.readInt64? text = none) (notReal : Binary64.read? text = none) :
      Means text (.text text)

theorem means_valueOfVariable (text : List Char) : Means text (valueOfVariable text) := by
  unfold valueOfVariable
  dsimp only
  split
  · next isTrue => exact .flag true isTrue
  · next notTrue =>
    split
    · next isFalse => exact .flag false isFalse
    · next notFalse =>
      have noFlag (flag : Bool) : lowerCase text ≠ flagWord flag := by
        cases flag <;> assumption
      split
      · next read => exact .whole noFlag read
      · next notWhole =>
        split
        · next read => exact .real noFlag notWhole read
        · next notReal => exact .text noFlag notWhole notReal

section Printing

/-- What the value of a variable is written as. -/
def printed (text : List Char) : List Char := printedScalar (valueOfVariable text)

theorem valueOfVariable_ne_nothing (text : List Char) : valueOfVariable text ≠ .nothing := by
  have means := means_valueOfVariable text
  generalize valueOfVariable text = value at means
  cases means <;> nofun

/-- What a setting that takes texts makes of a variable. -/
theorem toText_valueOfVariable {library : Library} (converts : library.Converts) (text : List Char)
    (origin : Option Origin) :
    library.toText (.scalar (valueOfVariable text) origin) = .ok (printed text) :=
  converts.text _ origin (valueOfVariable_ne_nothing text)

theorem writePositional_ne_nil (significand : Nat) (exponent : Int) :
    Binary64.writePositional significand exponent ≠ [] := by
  unfold Binary64.writePositional
  dsimp only
  repeat' split
  all_goals simp [Numeral.write_ne_nil]

theorem write_ne_nil (value : Binary64) : value.write ≠ [] := by
  cases value with
  | nan => decide
  | infinite negative => cases negative <;> decide
  | finite negative magnitude =>
      have digits : (if magnitude.units = 0 then ['0'] else
            Binary64.writePositional magnitude.shortestDecimal.1 magnitude.shortestDecimal.2)
          ≠ [] := by
        split
        · simp
        · exact writePositional_ne_nil _ _
      cases negative with
      | false => exact digits
      | true => exact List.cons_ne_nil _ _

theorem writeInt_ne_nil (number : Int) : Numeral.writeInt number ≠ [] := by
  unfold Numeral.writeInt
  split
  · exact List.cons_ne_nil _ _
  · exact Numeral.write_ne_nil _

/-- Only nothing is written as nothing. -/
theorem printed_ne_nil {text : List Char} (nonempty : text ≠ []) : printed text ≠ [] := by
  have means := means_valueOfVariable text
  unfold printed
  generalize valueOfVariable text = value at means
  cases means with
  | flag value => cases value <;> decide
  | whole => exact writeInt_ne_nil _
  | real => exact write_ne_nil _
  | text => exact nonempty

/-- A text that is a flag or a number only in the way in which that is written: a flag in lower
case, a whole number without a plus sign or zeros in front of its digits, and another number as the
shortest text that reads as it. -/
structure IsVerbatim (text : List Char) : Prop where
  flag : ∀ flag, lowerCase text = flagWord flag → text = flagWord flag
  whole : ∀ number, Numeral.readInt64? text = some number → Numeral.IsCanonicalInt text
  real : Numeral.readInt64? text = none → ∀ number, Binary64.read? text = some number →
    text = number.write

theorem isVerbatim_flagWord (flag : Bool) : IsVerbatim (flagWord flag) where
  flag other same := by
    have lower : lowerCase (flagWord flag) = flagWord flag := by cases flag <;> decide
    rw [← lower, same]
  whole number read := by cases flag <;> cases read
  real _ number read := by
    have notReal : Binary64.read? (flagWord flag) = none := by cases flag <;> decide
    rw [notReal] at read
    cases read

/-- The text is kept exactly if it is a flag or a number only as that is written. -/
theorem printed_eq_iff (text : List Char) : printed text = text ↔ IsVerbatim text := by
  have means := means_valueOfVariable text
  unfold printed
  generalize valueOfVariable text = value at means
  cases means with
  | flag value isWord =>
      constructor
      · intro kept
        rw [← kept]
        exact isVerbatim_flagWord value
      · exact fun isVerbatim => (isVerbatim.flag value isWord).symm
  | whole noFlag read =>
      refine (Numeral.writeInt_eq_iff read).trans ⟨fun isCanonical => ?_, fun isVerbatim => ?_⟩
      · exact ⟨fun flag isWord => absurd isWord (noFlag flag), fun _ _ => isCanonical,
          fun notWhole => by rw [notWhole] at read; cases read⟩
      · exact isVerbatim.whole _ read
  | real noFlag notWhole read =>
      constructor
      · intro kept
        refine ⟨fun flag isWord => absurd isWord (noFlag flag), fun number readWhole => ?_,
          fun _ number readReal => ?_⟩
        · rw [notWhole] at readWhole
          cases readWhole
        · rw [read] at readReal
          cases readReal
          exact kept.symm
      · exact fun isVerbatim => (isVerbatim.real notWhole _ read).symm
  | text noFlag notWhole notReal =>
      refine ⟨fun _ => ⟨fun flag isWord => absurd isWord (noFlag flag), ?_, ?_⟩, fun _ => rfl⟩
      · intro number readWhole
        rw [notWhole] at readWhole
        cases readWhole
      · intro _ number readReal
        rw [notReal] at readReal
        cases readReal

end Printing

end Settings

namespace Setting

open Settings

/-- Whether variables set this setting and nothing else. -/
def SetsOnly (setting : Setting) (environment : List (List Char × List Char)) : Prop :=
  ∀ entry ∈ environment, setting.isNamedBy entry.1 = true

variable {library : Library} {sources : List Source} {setting other : Setting}
variable {environment : List (List Char × List Char)}

theorem names_ne_nil (setting : Setting) : setting.names ≠ [] := by
  cases setting <;> decide

/-- No setting stands below another one. -/
theorem eq_of_names_eq_append {below : List (List Char)}
    (split : setting.names = other.names ++ below) : setting = other := by
  have before : other.names <+: setting.names := ⟨below, split.symm⟩
  rw [← List.isPrefixOf_iff_prefix] at before
  cases setting <;> cases other <;> first | rfl | cases before

/-- No setting is called like a group. -/
theorem name_not_mem_groups (setting : Setting) : setting.place.name ∉ groups := by
  cases setting <;> decide

theorem setsOnly_single {name : List Char} (isNamed : setting.isNamedBy name = true)
    (text : List Char) : setting.SetsOnly [(name, text)] := by
  intro entry member
  rw [List.mem_singleton.mp member]
  exact isNamed

section SetsOnly

variable (only : setting.SetsOnly environment) (merging : library.Merges sources environment)
include only

theorem SetsOnly.namesOf?_eq {entry : List Char × List Char} (member : entry ∈ environment) :
    namesOf? entry.1 = some setting.names := of_decide_eq_true (only entry member)

include merging

/-- Such variables set something in no group but the one of this setting. -/
theorem SetsOnly.group_of_isSome {group : String} (isMember : group ∈ groups)
    (isSome : (Tree.child? (some (library.environmentTree environment)) group.toList).isSome
      = true) : setting.place.group? = some group := by
  obtain ⟨entry, member, below, spelled⟩ := (merging.isSome_group_iff group).mp isSome
  rw [only.namesOf?_eq member, names] at spelled
  cases stands : setting.place.group? with
  | none =>
      rw [stands] at spelled
      obtain rfl := String.toList_injective (List.cons.inj (Option.some.inj spelled)).1
      exact absurd isMember (name_not_mem_groups setting)
  | some other =>
      rw [stands] at spelled
      rw [String.toList_injective (List.cons.inj (Option.some.inj spelled)).1]

/-- They give nothing to other settings. -/
theorem SetsOnly.at?_of_ne (different : other ≠ setting) :
    Tree.at? (some (library.environmentTree environment)) other.names = none := by
  by_contra given
  obtain ⟨tree, given⟩ := Option.ne_none_iff_exists'.mp given
  cases isTable : tree.isTable with
  | true =>
      obtain ⟨entry, member, below, _, spelled⟩ :=
        merging.way _ tree given isTable (names_ne_nil other)
      rw [only.namesOf?_eq member] at spelled
      exact different (eq_of_names_eq_append (Option.some.inj spelled)).symm
  | false =>
      obtain ⟨entry, member, spelled, _⟩ := merging.value _ tree given isTable
      rw [only.namesOf?_eq member] at spelled
      have same : setting.names = other.names ++ [] := by
        rw [List.append_nil]
        exact Option.some.inj spelled
      exact different (eq_of_names_eq_append same).symm

/-- Other settings have what the file gives to them. -/
theorem SetsOnly.combined_of_ne (different : other ≠ setting) :
    other.combined (library.build sources) (library.environmentTree environment)
      = other.base (library.build sources) (library.environmentTree environment) := by
  rw [combined, only.at?_of_ne merging different, Option.none_or]

/-- That is what the tree of the file gives, but for a list in place of the group of this
setting. -/
theorem SetsOnly.base_eq
    (kept : ∀ group, other.place.group? = some group → setting.place.group? = some group →
      isInOrder (groupOf (library.build sources) group) = false) :
    other.base (library.build sources) (library.environmentTree environment)
      = other.inTree? (library.build sources) := by
  unfold base
  split
  · rfl
  · next group stands =>
    refine if_neg fun lost => ?_
    rw [Bool.and_eq_true] at lost
    obtain ⟨inOrder, isSome⟩ := lost
    have together := only.group_of_isSome merging (group_mem stands) isSome
    rw [kept group stands together] at inOrder
    cases inOrder

/-- A group can be read under such variables if it is the one of this setting or can be read in the
file. -/
theorem SetsOnly.isGroup_groupOf {group : String} (isMember : group ∈ groups)
    (isGroup : isGroup (groupOfBoth (library.build sources)
      (library.environmentTree environment) group) = true) :
    setting.place.group? = some group
      ∨ Settings.isGroup (groupOf (library.build sources) group) = true := by
  rw [groupOfBoth] at isGroup
  cases given : Tree.child? (some (library.environmentTree environment)) group.toList with
  | none => exact .inr (by rwa [given] at isGroup)
  | some tree => exact .inl (only.group_of_isSome merging isMember (by rw [given]; rfl))

end SetsOnly

section Single

variable {name text : List Char} (isNamed : setting.isNamedBy name = true)
variable (merging : library.Merges sources [(name, text)])
include isNamed merging

/-- A setting that a single variable sets has the value of that. -/
theorem at?_single :
    Tree.at? (some (library.environmentTree [(name, text)])) setting.names
      = some (.scalar (valueOfVariable text) (some .environment)) := by
  have unambiguous : IsUnambiguous [(name, text)] := by
    intro first isFirst second isSecond _ _ _ _
    rw [List.mem_singleton.mp isFirst, List.mem_singleton.mp isSecond]
  have member : (name, text) ∈ [(name, text)] := List.mem_singleton.mpr rfl
  exact merging.at?_of_isUnambiguous unambiguous member (of_decide_eq_true isNamed)

/-- Its group is one that something is set in by name. -/
theorem exists_table_single {group : String} (stands : setting.place.group? = some group) :
    ∃ entries origin, Tree.child? (some (library.environmentTree [(name, text)])) group.toList
      = some (.table entries origin) := by
  have given := at?_single isNamed merging
  rw [names, stands] at given
  dsimp only at given
  rw [Tree.at?_cons] at given
  cases found : Tree.child? (some (library.environmentTree [(name, text)])) group.toList with
  | none =>
      rw [found, Tree.at?_none] at given
      cases given
  | some tree =>
      cases isTable : tree.isTable with
      | false =>
          rw [found, Tree.at?_of_leaf isTable (by simp)] at given
          cases given
      | true =>
          obtain ⟨entries, origin, rfl⟩ := Tree.exists_of_isTable isTable
          exact ⟨entries, origin, rfl⟩

end Single

end Setting

namespace Settings

open Setting

variable {library : Library} {usual before : Settings} {file : Option File}
variable {sources : List Source} {environment : List (List Char × List Char)}
variable {name text : List Char} {setting : Setting}

/-- What a library is known to do with a file and variables that set one setting only. -/
def Library.MergesOnly (library : Library) (file : Option File) (setting : Setting) : Prop :=
  ∀ sources environment, library.sourcesOf file = .ok sources → setting.SetsOnly environment →
    library.Merges sources environment

section Single

variable (converts : library.Converts)
include converts

/-- What is loaded when a single variable sets one setting. -/
theorem load_single (merges : library.MergesOnly file setting)
    (isNamed : setting.isNamedBy name = true) (read : library.sourcesOf file = .ok sources)
    (areGroups : ∀ group ∈ groups, setting.place.group? = some group
      ∨ isGroup (groupOf (library.build sources) group) = true)
    {after : Settings}
    (here : setting.Takes library usual after
      (some (.scalar (valueOfVariable text) (some .environment))))
    (others : ∀ other ≠ setting, other.Takes library usual after
      (other.base (library.build sources) (library.environmentTree [(name, text)])))
    (valid : after.validate = .ok ()) : library.load usual file [(name, text)] = .ok after := by
  have only := setsOnly_single isNamed text
  have merging := merges sources _ read only
  refine (load_eq_ok_iff converts fun others isRead => merges others _ isRead only).mpr
    ⟨sources, read, fun group isMember => ?_, fun other => ?_, valid⟩
  · rw [groupOfBoth]
    cases given : Tree.child? (some (library.environmentTree [(name, text)])) group.toList with
    | none =>
        refine (areGroups group isMember).resolve_left fun stands => ?_
        obtain ⟨_, _, isTable⟩ := exists_table_single isNamed merging stands
        rw [given] at isTable
        cases isTable
    | some tree =>
        have stands := only.group_of_isSome merging isMember (by rw [given]; rfl)
        obtain ⟨_, _, isTable⟩ := exists_table_single isNamed merging stands
        rw [given] at isTable
        rw [Option.some.inj isTable]
        rfl
  · by_cases same : other = setting
    · subst same
      rw [combined, at?_single isNamed merging]
      exact here
    · rw [only.combined_of_ne merging same]
      exact others other same

/-- The path of the socket alone is set by such a variable. -/
theorem load_socketPath (merges : library.MergesOnly file .socketPath)
    (only : Setting.socketPath.SetsOnly environment)
    (loaded : library.load usual file environment = .ok before)
    (isNamed : Setting.socketPath.isNamedBy name = true) (nonempty : text ≠ []) :
    library.load usual file [(name, text)] = .ok { before with socketPath := printed text } := by
  obtain ⟨sources, read, areGroups, takes, accepted⟩ :=
    (load_eq_ok_iff converts fun others isRead => merges others _ isRead only).mp loaded
  have merging := merges sources _ read only
  have onlyThis := setsOnly_single isNamed text
  have mergingThis := merges sources _ read onlyThis
  refine load_single converts merges isNamed read
    (fun group isMember => only.isGroup_groupOf merging isMember (areGroups group isMember))
    (toText_valueOfVariable converts text _) (fun other different => ?_) ?_
  · have alone (group : String) (_ : other.place.group? = some group)
        (stands : Setting.socketPath.place.group? = some group) :
        isInOrder (groupOf (library.build sources) group) = false := by cases stands
    have taken := takes other
    rw [only.combined_of_ne merging different, only.base_eq merging alone,
      ← onlyThis.base_eq mergingThis alone] at taken
    cases other <;> first | exact absurd rfl different | exact taken
  · rw [validate_eq_ok_iff] at accepted ⊢
    obtain ⟨some, few, target, _, step, decrease, line⟩ := accepted
    exact ⟨some, few, target, List.isEmpty_eq_false_iff.mpr (printed_ne_nil nonempty), step,
      decrease, line⟩

/-- So is the name of the cookie. Of a list in place of its group nothing is left then. -/
theorem load_authCookie (merges : library.MergesOnly file .authCookie)
    (only : Setting.authCookie.SetsOnly environment)
    (loaded : library.load usual file environment = .ok before)
    (isNamed : Setting.authCookie.isNamedBy name = true) (text : List Char) :
    ∃ after, library.load usual file [(name, text)] = .ok after
      ∧ after.authCookie = printed text := by
  obtain ⟨sources, read, areGroups, takes, accepted⟩ :=
    (load_eq_ok_iff converts fun others isRead => merges others _ isRead only).mp loaded
  have merging := merges sources _ read only
  have onlyThis := setsOnly_single isNamed text
  have mergingThis := merges sources _ read onlyThis
  have areGroupsAfter : ∀ group ∈ groups, Setting.authCookie.place.group? = some group
      ∨ isGroup (groupOf (library.build sources) group) = true :=
    fun group isMember => only.isGroup_groupOf merging isMember (areGroups group isMember)
  have here := toText_valueOfVariable converts text (some .environment)
  cases inOrder : isInOrder (groupOf (library.build sources) "middleware") with
  | false =>
      have kept {other : Setting} (group : String) (_ : other.place.group? = some group)
          (isGate : Setting.authCookie.place.group? = some group) :
          isInOrder (groupOf (library.build sources) group) = false := by
        rw [← Option.some.inj isGate]
        exact inOrder
      refine ⟨{ before with authCookie := printed text },
        load_single converts merges isNamed read areGroupsAfter here (fun other different => ?_)
          accepted, rfl⟩
      have taken := takes other
      rw [only.combined_of_ne merging different, only.base_eq merging kept,
        ← onlyThis.base_eq mergingThis kept] at taken
      cases other <;> first | exact absurd rfl different | exact taken
  | true =>
      refine ⟨{ before with
          retryAfterSeconds := usual.retryAfterSeconds, warnSeconds := usual.warnSeconds
          unsampledPrefixes := usual.unsampledPrefixes, authCookie := printed text },
        load_single converts merges isNamed read areGroupsAfter here (fun other different => ?_)
          accepted, rfl⟩
      by_cases together : other.place.group? = some "middleware"
      · obtain ⟨_, _, isTable⟩ := exists_table_single isNamed mergingThis
          (show Setting.authCookie.place.group? = some "middleware" from rfl)
        have lost : other.base (library.build sources) (library.environmentTree [(name, text)])
            = none := by
          rw [base, together]
          dsimp only
          rw [inOrder, isTable]
          rfl
        rw [lost]
        cases other <;> first
          | exact absurd rfl different
          | exact absurd together (by decide)
          | exact (rfl : Except.ok _ = Except.ok _)
      · have apart (group : String) (stands : other.place.group? = some group)
            (isGate : Setting.authCookie.place.group? = some group) :
            isInOrder (groupOf (library.build sources) group) = false :=
          absurd (stands.trans isGate.symm) together
        have taken := takes other
        rw [only.combined_of_ne merging different, only.base_eq merging apart,
          ← onlyThis.base_eq mergingThis apart] at taken
        cases other <;> first | exact absurd rfl together | exact taken

end Single

/-- Texts from the environment. Over settings that are loaded without the variable, or with another
value of it, a variable for the name of the cookie or for the path of the socket is loaded as what
its value is written as, and in the second case changes nothing else. This is the text of the
variable exactly if that is a flag or a number only in the way in which it is written. -/
theorem load_takes_printed (library : Library) (usual : Settings) (file : Option File)
    (text : List Char) (converts : library.Converts)
    (mergesCookie : library.MergesOnly file .authCookie)
    (mergesPath : library.MergesOnly file .socketPath) :
    (∀ environment before name, Setting.authCookie.SetsOnly environment →
        library.load usual file environment = .ok before →
        Setting.authCookie.isNamedBy name = true →
        ∃ after, library.load usual file [(name, text)] = .ok after
          ∧ after.authCookie = printed text)
      ∧ (∀ environment before name, Setting.socketPath.SetsOnly environment →
        library.load usual file environment = .ok before →
        Setting.socketPath.isNamedBy name = true → text ≠ [] →
        library.load usual file [(name, text)] = .ok { before with socketPath := printed text })
      ∧ (printed text = text ↔ IsVerbatim text) :=
  ⟨fun _ _ _ only loaded isNamed => load_authCookie converts mergesCookie only loaded isNamed text,
    fun _ _ _ only loaded isNamed nonempty =>
      load_socketPath converts mergesPath only loaded isNamed nonempty,
    printed_eq_iff text⟩

/-- A name that reads as no flag and no number is kept, over a file that gives another one. -/
theorem load_takes_printed_of_sid :
    let file : File := ⟨"c.json".toList,
      "\x7b\"workers\": 3, \"middleware\": \x7b\"auth_cookie\": \"sess\"\x7d\x7d".toList⟩
    let name := "LOAD_SHEDDER__MIDDLEWARE__AUTH_COOKIE".toList
    load {} (some file) [] = .ok { workers := 3, authCookie := "sess".toList }
      ∧ Setting.authCookie.isNamedBy name = true
      ∧ IsVerbatim "sid_7".toList
      ∧ ∃ after, load {} (some file) [(name, "sid_7".toList)] = .ok after
        ∧ after.authCookie = "sid_7".toList := by
  intro file name
  let origin : Option Origin := some (.file file.name)
  let gate : List (List Char × Tree) :=
    [("auth_cookie".toList, .scalar (.text "sess".toList) origin)]
  let entries : List (List Char × Tree) :=
    [("workers".toList, .scalar (.whole 3) origin), ("middleware".toList, .table gate origin)]
  have read : Library.standard.sourcesOf (some file) = .ok [entries] := by rfl
  have clear : ∀ entry ∈ entries, entry.2.IsClear := by
    intro entry member
    simp only [entries, List.mem_cons, List.not_mem_nil, or_false] at member
    rcases member with rfl | rfl
    · exact .leaf rfl
    · refine .table origin (List.pairwise_singleton _ _) fun inner isInner => ?_
      rw [List.mem_singleton.mp isInner]
      exact .leaf rfl
  have plain : ArePlain entries := ⟨by decide, (by decide : List.Nodup _), clear⟩
  have merges (setting : Setting) : Library.standard.MergesOnly (some file) setting := by
    intro sources environment isRead only
    obtain rfl := Except.ok.inj (read.symm.trans isRead)
    exact standard_merges plain (areSpelled_of_isNamedBy only)
  have loaded : load {} (some file) [] = .ok { workers := 3, authCookie := "sess".toList } := by
    decide +kernel
  have isNamed : Setting.authCookie.isNamedBy name = true := by decide +kernel
  obtain ⟨takes, _, kept⟩ := load_takes_printed Library.standard {} (some file) "sid_7".toList
    standard_converts (merges .authCookie) (merges .socketPath)
  have printed : printed "sid_7".toList = "sid_7".toList := by decide +kernel
  obtain ⟨after, loadedAfter, isPrinted⟩ :=
    takes [] _ name (by simp [Setting.SetsOnly]) loaded isNamed
  exact ⟨loaded, isNamed, kept.mp printed, after, loadedAfter, isPrinted.trans printed⟩

/-- A name of digits loses the zeros in front of them, but not if a file gives it. -/
theorem load_of_digits :
    let file : File := ⟨"c.json".toList, "\x7b\"workers\": 3\x7d".toList⟩
    let naming : File := ⟨"c.json".toList,
      "\x7b\"workers\": 3, \"middleware\": \x7b\"auth_cookie\": \"007\"\x7d\x7d".toList⟩
    let name := "LOAD_SHEDDER__MIDDLEWARE__AUTH_COOKIE".toList
    load {} (some file) [] = .ok { workers := 3 }
      ∧ load {} (some file) [(name, "007".toList)] = .ok { workers := 3, authCookie := ['7'] }
      ∧ load {} (some naming) [] = .ok { workers := 3, authCookie := "007".toList } := by
  intro file naming name
  exact ⟨by decide +kernel, by decide +kernel, by decide +kernel⟩

end Settings

end AdmissionControl
