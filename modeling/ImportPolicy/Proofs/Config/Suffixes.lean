import ImportPolicy.Proofs.Config.Sections
import ImportPolicy.Proofs.Text.Lowering
import ImportPolicy.Proofs.Text.Tables

/-! # The language of a suffix

A table of suffixes maps a suffix to the last language whose section lists it. All its keys are in
lower case.

* `Config.ListsSuffix`, `Config.LastListed` — sections that list a suffix, and the last of them.
* `Config.find?_suffixesOf` — what a table of suffixes says.
* `Config.lower_of_mem_suffixesOf` — its keys. -/

namespace ImportPolicy.Config

variable {table next : Table Language} {entries : Mapping} {suffix : Text} {v : Value}
  {l : Language}

/-- The section of a language lists an extension that stands for a suffix. -/
def ListsSuffix (v : Value) (suffix : Text) : Prop :=
  ∃ (own : Mapping) (listed : Value) (texts : List Text), v = .map own ∧
    own.find? "extensions" = some listed ∧ listed.parts? = some (texts.map .str) ∧
      ∃ extension ∈ texts, normalSuffix extension = suffix

/-- No section of a language lists a suffix. -/
def Unlisted (entries : Mapping) (suffix : Text) : Prop :=
  ∀ e ∈ entries, ∀ l : Language, e.1 = .str l.name → ¬ ListsSuffix e.2 suffix

/-- A language is the last one, in the order of the sections, whose section lists a suffix. -/
def LastListed (entries : Mapping) (suffix : Text) (l : Language) : Prop :=
  ∃ before v after, entries = before ++ (.str l.name, v) :: after ∧ ListsSuffix v suffix ∧
    Unlisted after suffix

/-! ## Suffixes of one language -/

theorem lower_normalSuffix (t : Text) : Text.lower (normalSuffix t) = normalSuffix t := by
  unfold normalSuffix
  split
  · exact Text.lower_lower t
  · apply Text.lower_of_isLowered
    have point : ∀ c ∈ Text.ofString ".", c.IsLowered := by decide +kernel
    exact List.forall_mem_append.2 ⟨point, Text.isLowered_lower t⟩

theorem membersOf_eq_ok_iff {members : List Value} :
    membersOf v = .ok members ↔ v.parts? = some members := by
  unfold membersOf
  cases v.parts? <;> simp

theorem mem_listedSuffixes {suffixes : List Text} (read : listedSuffixes v = .ok suffixes) :
    suffix ∈ suffixes ↔ ListsSuffix v suffix := by
  obtain ⟨own, isMapping, read⟩ := bind_eq_ok read
  obtain ⟨members, collected, read⟩ := bind_eq_ok read
  obtain ⟨texts, named, read⟩ := bind_eq_ok read
  cases read
  obtain rfl := entriesOf_eq_ok_iff.1 isMapping
  rw [membersOf_eq_ok_iff, mapM_textOf_eq_ok_iff.1 named, sectionOr] at collected
  cases found : own.find? "extensions" with
  | none =>
    rw [found, Option.getD_none] at collected
    obtain rfl : texts = [] := by simpa [Value.parts?] using collected
    simp [ListsSuffix, found]
  | some listed =>
    rw [found, Option.getD_some] at collected
    rw [List.mem_map]
    constructor
    · intro normal
      exact ⟨own, listed, texts, rfl, found, collected, normal⟩
    · rintro ⟨_, _, others, held, found', parts, normal⟩
      cases held
      cases found.symm.trans found'
      rw [collected, Option.some.injEq] at parts
      obtain rfl := List.map_injective_iff.2 (fun _ _ => Value.str.inj) parts
      exact normal

theorem find?_putSuffixes (table : Table Language) (l : Language) (suffixes : List Text) :
    (putSuffixes table l suffixes).find? suffix =
      if suffix ∈ suffixes then some l else table.find? suffix := by
  induction suffixes generalizing table with
  | nil => rfl
  | cons first rest inductionHypothesis =>
    change (putSuffixes (table.put first l) l rest).find? suffix = _
    rw [inductionHypothesis, Table.find?_put]
    by_cases later : suffix ∈ rest
    · simp [later]
    · by_cases here : first = suffix
      · simp [later, here]
      · simp [later, here, Ne.symm here]

/-! ## Suffixes of all languages -/

/-- The section of a language writes what it lists; what stands under another name writes nothing. -/
theorem putSection_eq_ok {name : Value} (step : putSection table (name, v) = .ok next) :
    ((∀ l : Language, name ≠ .str l.name) ∧ next = table) ∨
      ∃ (l : Language) (suffixes : List Text), name = .str l.name ∧
        listedSuffixes v = .ok suffixes ∧ next = putSuffixes table l suffixes := by
  unfold putSection at step
  split at step
  next l known =>
    obtain ⟨t, isText, found⟩ := Option.bind_eq_some_iff.1 known
    obtain ⟨suffixes, listed, step⟩ := bind_eq_ok step
    cases step
    obtain rfl := text?_eq_some_iff.1 isText
    obtain rfl := Language.ofName?_eq_some_iff.1 found
    exact .inr ⟨l, suffixes, rfl, listed, rfl⟩
  next unknown =>
    cases step
    refine .inl ⟨?_, rfl⟩
    rintro l rfl
    simp [Value.text?] at unknown

theorem name_injective : Function.Injective fun l : Language => Text.ofString l.name := by
  intro l l' same
  simpa using congrArg Language.ofName? same

/-- One section decides for the suffixes that it lists and for no others. -/
theorem find?_putSection {entry : Value × Value} (step : putSection table entry = .ok next) :
    next.find? suffix = some l ↔
      (entry.1 = .str l.name ∧ ListsSuffix entry.2 suffix) ∨
        (table.find? suffix = some l ∧
          ∀ l' : Language, entry.1 = .str l'.name → ¬ ListsSuffix entry.2 suffix) := by
  obtain ⟨name, v⟩ := entry
  rcases putSection_eq_ok step with ⟨unknown, rfl⟩ | ⟨own, suffixes, rfl, listed, rfl⟩
  · simp [unknown]
  · have same (l' : Language) : Value.str own.name = .str l'.name ↔ own = l' := by
      rw [Value.str.injEq, name_injective.eq_iff]
    rw [find?_putSuffixes]
    simp only [same, forall_eq', ← mem_listedSuffixes listed]
    by_cases lists : suffix ∈ suffixes <;> simp [lists]

theorem lastListed_cons_iff {entry : Value × Value} :
    LastListed (entry :: entries) suffix l ↔ LastListed entries suffix l ∨
      (entry.1 = .str l.name ∧ ListsSuffix entry.2 suffix ∧ Unlisted entries suffix) := by
  constructor
  · rintro ⟨before, v, after, split, lists, unlisted⟩
    cases before with
    | nil =>
      cases split
      exact .inr ⟨rfl, lists, unlisted⟩
    | cons first before =>
      cases split
      exact .inl ⟨before, v, after, rfl, lists, unlisted⟩
  · rintro (⟨before, v, after, rfl, lists, unlisted⟩ | ⟨named, lists, unlisted⟩)
    · exact ⟨entry :: before, v, after, rfl, lists, unlisted⟩
    · exact ⟨[], entry.2, entries, by rw [← named]; rfl, lists, unlisted⟩

theorem find?_foldlM_putSection (folded : entries.foldlM putSection table = .ok next) :
    next.find? suffix = some l ↔
      LastListed entries suffix l ∨ (table.find? suffix = some l ∧ Unlisted entries suffix) := by
  induction entries generalizing table with
  | nil =>
    cases folded
    simp [LastListed, Unlisted]
  | cons entry rest inductionHypothesis =>
    rw [List.foldlM_cons] at folded
    obtain ⟨middle, step, folded⟩ := bind_eq_ok folded
    rw [inductionHypothesis folded, find?_putSection step, lastListed_cons_iff, Unlisted, Unlisted,
      List.forall_mem_cons]
    tauto

/-- What a table of suffixes gives for a suffix is the last language that lists it. -/
theorem find?_suffixesOf (read : suffixesOf (.map entries) = .ok table) :
    table.find? suffix = some l ↔ LastListed entries suffix l := by
  have folded : entries.foldlM putSection [] = .ok table := read
  rw [find?_foldlM_putSection folded]
  simp

theorem lower_of_mem_suffixesOf (read : suffixesOf v = .ok table) (listed : suffix ∈ table.keys) :
    Text.lower suffix = suffix := by
  obtain ⟨entries, isMapping, -⟩ := bind_eq_ok read
  obtain rfl := entriesOf_eq_ok_iff.1 isMapping
  obtain ⟨l, found⟩ := Table.mem_keys_iff.1 listed
  obtain ⟨-, -, -, -, ⟨-, -, -, -, -, -, extension, -, rfl⟩, -⟩ := (find?_suffixesOf read).1 found
  exact lower_normalSuffix extension

end ImportPolicy.Config
