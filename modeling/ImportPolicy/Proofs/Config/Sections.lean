import ImportPolicy.Config.Effective
import ImportPolicy.Config.Languages
import ImportPolicy.Proofs.Config.Layering
import ImportPolicy.Proofs.Traversals

/-! # Sections that can be used

What has to stand in a section for it to be read at all is said here of the values themselves. A
section of fields is a mapping whose keys are texts; a section of names is a collection of texts.

* `Config.HasFields` — the fields in a section.
* `Config.ruleFields_eq_ok_iff`, `Config.settingsFields_eq_ok_iff` — when the sections of the rule and
  of the resolver have fields.
* `Config.UsableLanguages`, `Config.suffixesOf_answers_iff` — when the suffixes of languages can be
  read.
* `Config.UsableIgnored`, `Config.ignoredNames_answers_iff` — when the ignored names can be read. -/

namespace ImportPolicy

theorem Language.ofName?_eq_some_iff {t : Text} {l : Language} :
    Language.ofName? t = some l ↔ t = Text.ofString l.name := by
  constructor
  · intro found
    have named := List.find?_some found
    exact (of_decide_eq_true named).symm
  · rintro rfl
    exact Language.ofName?_name l

namespace Config

variable {config rules fields : Mapping} {name : Text} {v : Value}

/-! ## Fields -/

/-- The fields in a section: those of a mapping whose keys are texts, and none where there is no
    section. -/
inductive HasFields (config : Mapping) (name : Text) : Mapping → Prop where
  | absent (missing : config.find? name = none) : HasFields config name []
  | named {fields : Mapping} (found : config.find? name = some (.map fields))
      (texts : ∀ e ∈ fields, ∃ t, e.1 = .str t) : HasFields config name fields

theorem text?_eq_some_iff {t : Text} : v.text? = some t ↔ v = .str t := by
  cases v <;> simp [Value.text?]

theorem isSome_text?_iff : v.text?.isSome = true ↔ ∃ t, v = .str t := by
  simp only [Option.isSome_iff_exists, text?_eq_some_iff]

theorem fieldsOf_eq_ok_iff : fieldsOf v = .ok fields ↔
    v = .map fields ∧ ∀ e ∈ fields, ∃ t, e.1 = .str t := by
  cases v with
  | map entries =>
    have texts : (entries.all fun e => e.1.text?.isSome) = true ↔
        ∀ e ∈ entries, ∃ t, e.1 = .str t := by
      simp only [List.all_eq_true, isSome_text?_iff]
    rw [fieldsOf, Value.map.injEq]
    by_cases named : (entries.all fun e => e.1.text?.isSome) = true
    · rw [if_pos named, Except.ok.injEq]
      exact ⟨fun same => ⟨same, same ▸ texts.1 named⟩, And.left⟩
    · rw [if_neg named]
      refine iff_of_false (by simp) ?_
      rintro ⟨rfl, fields⟩
      exact named (texts.2 fields)
  | _ => simp [fieldsOf]

theorem fieldsOf_sectionOr_eq_ok_iff :
    fieldsOf (sectionOr config name (.map [])) = .ok fields ↔ HasFields config name fields := by
  rw [fieldsOf_eq_ok_iff, sectionOr]
  constructor
  · rintro ⟨held, texts⟩
    cases found : config.find? name with
    | none =>
      rw [found] at held
      cases held
      exact .absent found
    | some v =>
      rw [found, Option.getD_some] at held
      exact .named (held ▸ found) texts
  · rintro (missing | ⟨found, texts⟩)
    · rw [missing]
      exact ⟨rfl, List.forall_mem_nil _⟩
    · rw [found]
      exact ⟨rfl, texts⟩

theorem settingsFields_eq_ok_iff :
    settingsFields config = .ok fields ↔ HasFields config "settings" fields :=
  fieldsOf_sectionOr_eq_ok_iff

theorem entriesOf_eq_ok_iff : entriesOf v = .ok fields ↔ v = .map fields := by
  cases v <;> simp [entriesOf]

theorem sectionOr_of_find? {other : Value} (found : config.find? name = some v) :
    sectionOr config name other = v := by
  rw [sectionOr, found, Option.getD_some]

theorem ruleFields_eq_ok_iff (found : config.find? "rules" = some v) :
    ruleFields config = .ok fields ↔
      ∃ rules, v = .map rules ∧ HasFields rules "import_extensions" fields := by
  rw [ruleFields, sectionOr_of_find? found]
  constructor
  · intro read
    obtain ⟨rules, isMapping, read⟩ := bind_eq_ok read
    exact ⟨rules, entriesOf_eq_ok_iff.1 isMapping, fieldsOf_sectionOr_eq_ok_iff.1 read⟩
  · rintro ⟨rules, rfl, read⟩
    exact fieldsOf_sectionOr_eq_ok_iff.2 read

/-! ## Texts -/

/-- A value is a collection of texts. -/
def HoldsTexts (v : Value) : Prop := ∃ texts : List Text, v.parts? = some (texts.map .str)

theorem textOf_eq_ok_iff {t : Text} : textOf v = .ok t ↔ v = .str t := by
  cases v <;> simp [textOf]

theorem mapM_textOf_eq_ok_iff {members : List Value} {texts : List Text} :
    members.mapM textOf = .ok texts ↔ members = texts.map .str := by
  rw [mapM_eq_ok_iff]
  simp only [textOf_eq_ok_iff]
  rw [← List.forall₂_map_right_iff, List.forall₂_eq_eq_eq]

theorem holdsTexts_iff : HoldsTexts v ↔
    ∃ members, membersOf v = .ok members ∧ ∃ texts, members.mapM textOf = .ok texts := by
  unfold membersOf HoldsTexts
  cases v.parts? <;> simp [mapM_textOf_eq_ok_iff]

/-! ## Languages -/

/-- The section of a language can be read: it is a mapping, and where it lists extensions, these are
    texts. -/
def UsableLanguage (v : Value) : Prop :=
  ∃ entries : Mapping, v = .map entries ∧ ∀ listed, entries.find? "extensions" = some listed →
    HoldsTexts listed

/-- The sections of known languages can be read. What stands under other names does not matter. -/
def UsableLanguages (config : Mapping) : Prop :=
  ∃ entries, config.find? "languages" = some (.map entries) ∧
    ∀ e ∈ entries, ∀ l : Language, e.1 = .str l.name → UsableLanguage e.2

theorem listedSuffixes_answers_iff :
    (∃ suffixes, listedSuffixes v = .ok suffixes) ↔ UsableLanguage v := by
  have listed (entries : Mapping) :
      HoldsTexts (sectionOr entries "extensions" (.list [])) ↔
        ∀ listed, entries.find? "extensions" = some listed → HoldsTexts listed := by
    rw [sectionOr]
    cases entries.find? "extensions" with
    | none => simpa using ⟨[], rfl⟩
    | some v => simp
  simp only [UsableLanguage, ← listed]
  simp only [holdsTexts_iff, listedSuffixes, bind_answers_iff, entriesOf_eq_ok_iff, pure,
    Except.pure, Except.ok.injEq, exists_eq', and_true]

theorem suffixesOf_answers_iff (found : config.find? "languages" = some v) :
    (∃ table, suffixesOf v = .ok table) ↔ UsableLanguages config := by
  unfold UsableLanguages
  rw [found]
  cases v with
  | map entries =>
    simp only [Option.some.injEq, Value.map.injEq, exists_eq_left']
    -- Whether an entry can be read does not depend on the suffixes so far.
    refine foldlM_answers_iff (fun e _ table => ?_) []
    unfold putSection
    cases known : e.1.text?.bind Language.ofName? with
    | none =>
      refine iff_of_true ⟨table, rfl⟩ fun l named => ?_
      simp [named, Value.text?] at known
    | some l =>
      have named (l' : Language) : e.1 = .str l'.name ↔ l' = l := by
        obtain ⟨t, isText, found⟩ := Option.bind_eq_some_iff.1 known
        rw [text?_eq_some_iff.1 isText, Value.str.injEq]
        constructor
        · rintro rfl
          exact Option.some.inj ((Language.ofName?_name l').symm.trans found)
        · rintro rfl
          exact Language.ofName?_eq_some_iff.1 found
      simp only [named, forall_eq, ← listedSuffixes_answers_iff]
      cases listedSuffixes e.2 <;> simp [bind, Except.bind, pure, Except.pure]
  | _ => simp [suffixesOf, entriesOf, bind, Except.bind]

/-! ## Ignored names -/

/-- The names of ignored directories can be read: the section is missing or counts as false, or it
    is a collection of texts. -/
def UsableIgnored (config : Mapping) : Prop :=
  ∀ v, config.find? "ignore_paths" = some v → v.isTruthy = true → HoldsTexts v

theorem ignoredNames_answers_iff :
    (∃ names, ignoredNames config = .ok names) ↔ UsableIgnored config := by
  unfold ignoredNames UsableIgnored sectionOr
  cases config.find? "ignore_paths" with
  | none => exact iff_of_true ⟨[], rfl⟩ nofun
  | some v =>
    simp only [Option.getD_some, Option.some.injEq, forall_eq']
    cases truthy : v.isTruthy with
    | false => exact iff_of_true ⟨[], by simp [directoryNames, truthy, pure, Except.pure]⟩ nofun
    | true =>
      simp only [directoryNames, truthy, holdsTexts_iff, bind_answers_iff, pure, Except.pure,
        Bool.not_true, Bool.false_eq_true, if_false, Except.ok.injEq, exists_eq', and_true,
        forall_const]

end Config

end ImportPolicy
