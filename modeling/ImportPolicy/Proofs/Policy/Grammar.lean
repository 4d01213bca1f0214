import ImportPolicy.Proofs.Policy.Entries
import ImportPolicy.Proofs.Traversals

/-! # The grammar of option lists

Which JSON data are options is said here without a reader. A mapping is told apart by its keys and
by what its data are: it is a flat table unless it has one of two keys or holds data that are no
texts. A list has at most two options, and a word only in front.

* `Entry.Denoted`, `Entry.read_iff_denoted` — the data that are an entry.
* `OptionList`, `validate_grammar` — the lists of data that are accepted, and their entries. -/

namespace ImportPolicy.Policy

open Schema

variable {v : Value} {entries : Mapping}

/-! ## The grammar -/

/-- A mapping lists the names of modifiers under the extensions of a table. -/
def Lists (entries : Mapping) (pattern : Table Modifier) : Prop :=
  entries = pattern.map fun e => (.str e.1, .str e.2.name)

/-- A value is a mapping that lists a table. -/
def ListsTable (v : Value) (pattern : Table Modifier) : Prop :=
  ∃ entries, v = .map entries ∧ Lists entries pattern

/-- A mapping that is no flat table: one of two keys tells, or data that are no text. -/
def IsStructured (entries : Mapping) : Prop :=
  Mapping.has entries "pattern" = true ∨ Mapping.has entries "ignorePackages" = true ∨
    ∃ e ∈ entries, e.2.text? = none

/-- The name under which package mains are looked up: another one stands in where the first is
    absent. -/
def packagesName (entries : Mapping) : String :=
  if Mapping.has entries "ignorePackages" then "ignorePackages" else "ignore_packages"

/-- The JSON data that are an entry. Keys that no field has are ignored in a structured entry. -/
inductive Entry.Denoted : Value → Entry → Prop where
  | word (m : Modifier) : Denoted (.str m.name) (.word m)
  | flat {entries pattern} (flat : ¬ IsStructured entries) (lists : Lists entries pattern) :
      Denoted (.map entries) (.flat pattern)
  | structured {entries o} (structured : IsStructured entries)
      (pattern : Reader.Sets entries "pattern" ListsTable o.pattern)
      (packages : Reader.Sets entries (packagesName entries) Reader.TruthValue o.ignorePackages)
      (commonjs : Reader.Sets entries "commonjs" Reader.TruthValue o.commonjs) :
      Denoted (.map entries) (.structured o)

/-- The lists of JSON data that are accepted, with the entries that they are. -/
inductive OptionList : List Value → List Entry → Prop where
  | empty : OptionList [] []
  | word {v m} (first : Entry.Denoted v (.word m)) : OptionList [v] [.word m]
  | wordStructured {v w m o} (first : Entry.Denoted v (.word m))
      (second : Entry.Denoted w (.structured o)) : OptionList [v, w] [.word m, .structured o]
  | structured {v o} (first : Entry.Denoted v (.structured o)) : OptionList [v] [.structured o]
  | flat {v pattern} (first : Entry.Denoted v (.flat pattern)) : OptionList [v] [.flat pattern]
  | wordFlat {v w m pattern} (first : Entry.Denoted v (.word m))
      (second : Entry.Denoted w (.flat pattern)) : OptionList [v, w] [.word m, .flat pattern]

/-! ## Entries -/

theorem modifier_eq_ok_iff (json : v.isJson = true) {m : Modifier} :
    modifier v = .ok m ↔ v = .str m.name := by
  cases v with
  | str t => rw [modifier_str_eq_ok_iff, Value.str.injEq]
  | bytes _ => cases json
  | _ => simp [modifier, Reader.lenientText?, Checked.complain]

theorem table_eq_ok_iff_lists (json : (Value.map entries).isJson = true) {pattern : Table Modifier} :
    Reader.table modifier (.map entries) = .ok pattern ↔ Lists entries pattern := by
  obtain ⟨-, inside⟩ := (Value.isJson_map_iff entries).1 json
  exact Reader.table_eq_ok_iff json fun e member m => modifier_eq_ok_iff (inside e member).2

theorem table_eq_ok_iff_listsTable (json : v.isJson = true) {pattern : Table Modifier} :
    Reader.table modifier v = .ok pattern ↔ ListsTable v pattern := by
  cases v with
  | map entries => simp [table_eq_ok_iff_lists json, ListsTable]
  | _ => simp [Reader.table, Value.mapping?, Checked.complain, ListsTable]

theorem isFlat_eq_false_iff : isFlat entries = false ↔ IsStructured entries := by
  rw [isFlat, Bool.and_eq_false_iff, Bool.and_eq_false_iff, List.all_eq_false]
  simp [IsStructured, or_assoc]

theorem find?_ignorePackagesName (entries : Mapping) :
    Mapping.find? entries (ignorePackagesName entries) =
      Mapping.find? entries (packagesName entries) := by
  unfold ignorePackagesName packagesName
  by_cases first : Mapping.has entries "ignorePackages" = true
  · rw [if_pos first, if_pos (.inl first)]
  · by_cases second : Mapping.has entries "ignore_packages" = true
    · rw [if_neg first, if_neg (by simp [first, second])]
    · rw [if_neg first, if_pos (.inr second)]
      simp only [Mapping.has, Option.not_isSome_iff_eq_none] at first second
      rw [first, second]

theorem overrides_eq_ok_iff_sets (json : (Value.map entries).isJson = true) {o : Overrides} :
    overrides entries = .ok o ↔
      Reader.Sets entries "pattern" ListsTable o.pattern ∧
      Reader.Sets entries (packagesName entries) Reader.TruthValue o.ignorePackages ∧
      Reader.Sets entries "commonjs" Reader.TruthValue o.commonjs := by
  have truths (name : String) {o : Option Bool} :
      Reader.defaulted entries name none (Reader.optional Reader.truth) = .ok o ↔
        Reader.Sets entries name Reader.TruthValue o :=
    Reader.nullable_eq_ok_iff nofun fun v found _ =>
      Reader.truth_eq_ok_iff (Value.isJson_of_find? json found)
  have names := find?_ignorePackagesName entries
  rw [overrides_eq_ok_iff, truths, truths, Reader.nullable_eq_ok_iff nofun fun v found _ =>
    table_eq_ok_iff_listsTable (Value.isJson_of_find? json found)]
  exact and_congr_right fun _ => and_congr_left fun _ => ⟨.congr names, .congr names.symm⟩

theorem Entry.read_iff_denoted (json : v.isJson = true) {e : Entry} :
    Entry.read v = .ok e ↔ Entry.Denoted v e := by
  rw [read_eq_ok_iff]
  constructor
  · rintro (⟨m, rfl, rfl⟩ | ⟨entries, pattern, rfl, flat, read, rfl⟩ |
      ⟨entries, o, rfl, structured, read, rfl⟩)
    · exact .word m
    · refine .flat ?_ ((table_eq_ok_iff_lists json).1 read)
      rw [← isFlat_eq_false_iff, flat]
      exact Bool.noConfusion
    · obtain ⟨pattern, packages, commonjs⟩ := (overrides_eq_ok_iff_sets json).1 read
      exact .structured (isFlat_eq_false_iff.1 structured) pattern packages commonjs
  · intro denoted
    cases denoted with
    | word m => exact .inl ⟨m, rfl, rfl⟩
    | @flat entries pattern flat lists =>
      rw [← isFlat_eq_false_iff, Bool.not_eq_false] at flat
      exact .inr (.inl ⟨entries, pattern, rfl, flat, (table_eq_ok_iff_lists json).2 lists, rfl⟩)
    | @structured entries o structured pattern packages commonjs =>
      exact .inr (.inr ⟨entries, o, rfl, isFlat_eq_false_iff.2 structured,
        (overrides_eq_ok_iff_sets json).2 ⟨pattern, packages, commonjs⟩, rfl⟩)

/-! ## Lists -/

/-- An accepted list has an entry for each of its data, and their kinds have an accepted shape. -/
theorem optionList_iff {values : List Value} {found : List Entry} : OptionList values found ↔
    List.Forall₂ Entry.Denoted values found ∧ found.map Entry.kind ∈ acceptedShapes := by
  constructor
  · intro accepted
    cases accepted with
    | empty => exact ⟨.nil, by simp [acceptedShapes]⟩
    | word first | structured first | flat first =>
      exact ⟨.cons first .nil, by simp [acceptedShapes, Entry.kind]⟩
    | wordStructured first second | wordFlat first second =>
      exact ⟨.cons first (.cons second .nil), by simp [acceptedShapes, Entry.kind]⟩
  · rintro ⟨denoted, shape⟩
    cases denoted with
    | nil => exact .empty
    | @cons v e values found first denoted =>
      cases denoted with
      | nil =>
        cases e with
        | word m => exact .word first
        | flat pattern => exact .flat first
        | structured o => exact .structured first
      | @cons w f values found second denoted =>
        cases denoted with
        | nil =>
          cases e with
          | word m =>
            cases f with
            | word _ => simp [acceptedShapes, Entry.kind] at shape
            | flat pattern => exact .wordFlat first second
            | structured o => exact .wordStructured first second
          | flat _ | structured _ => simp [acceptedShapes, Entry.kind] at shape
        | cons third denoted =>
          have few : ∀ kinds ∈ acceptedShapes, kinds.length ≤ 2 := by decide
          have many := few _ shape
          simp at many

/-- A structured entry that only a number tells from a flat table, with a word for a truth value under
    the name that stands in. -/
def toldByNumber : List Value :=
  ["always", .map [("ignore_packages", "On"), ("commonjs", .null), ("js", .int 3)]]

end ImportPolicy.Policy
