import ImportPolicy.Policy.Options
import ImportPolicy.Proofs.Schema.Reading

/-! # What an entry says

* `Entry.read_eq_ok_iff` — the values that are an entry.
* `Entry.word?`, `Entry.table`, `Entry.ignorePackages?`, `Entry.commonjs?` — what an entry sets.
* `Entry.nodup_table` — an entry that was read sets every extension once. -/

namespace ImportPolicy.Policy

open Schema

/-! ## Reading an entry -/

theorem ofChecked_eq_ok_iff {α : Type} {raw : Value} {kind : EntryKind} {make : α → Entry}
    {checked : Checked α} {e : Entry} :
    ofChecked raw kind make checked = .ok e ↔ ∃ a, checked = .ok a ∧ make a = e := by
  cases checked <;> simp [ofChecked]

theorem overrides_eq_ok_iff {entries : Mapping} {o : Overrides} : overrides entries = .ok o ↔
    Reader.defaulted entries "pattern" none (Reader.optional (Reader.table modifier)) =
        .ok o.pattern ∧
      Reader.defaulted entries (ignorePackagesName entries) none (Reader.optional Reader.truth) =
        .ok o.ignorePackages ∧
      Reader.defaulted entries "commonjs" none (Reader.optional Reader.truth) =
        .ok o.commonjs := by
  obtain ⟨pattern, ignorePackages, commonjs⟩ := o
  simp only [overrides, Checked.seq_eq_ok_iff, Checked.map_eq_ok_iff]
  constructor
  · rintro ⟨_, _, ⟨_, _, ⟨_, listed, rfl⟩, packages, rfl⟩, requires, same⟩
    cases same
    exact ⟨listed, packages, requires⟩
  · rintro ⟨listed, packages, requires⟩
    exact ⟨_, _, ⟨_, _, ⟨_, listed, rfl⟩, packages, rfl⟩, requires, rfl⟩

theorem ofName?_eq_some_iff {t : Text} {m : Modifier} :
    Modifier.ofName? t = some m ↔ t = Text.ofString m.name :=
  ⟨Modifier.eq_name_of_ofName?, fun same => same ▸ Modifier.ofName?_name m⟩

theorem modifier_str_eq_ok_iff {t : Text} {m : Modifier} :
    modifier (.str t) = .ok m ↔ t = Text.ofString m.name := by
  rw [← ofName?_eq_some_iff]
  simp only [modifier, Reader.lenientText?, Option.bind_some]
  cases Modifier.ofName? t <;> simp [Checked.complain]

/-- A text is a word, and a mapping is a flat table or a structured entry. -/
theorem Entry.read_eq_ok_iff {v : Value} {e : Entry} : Entry.read v = .ok e ↔
    (∃ m : Modifier, v = .str m.name ∧ e = .word m) ∨
    (∃ entries pattern, v = .map entries ∧ isFlat entries = true ∧
      Reader.table modifier v = .ok pattern ∧ e = .flat pattern) ∨
    ∃ entries o, v = .map entries ∧ isFlat entries = false ∧ overrides entries = .ok o ∧
      e = .structured o := by
  cases v with
  | str t =>
    rw [Entry.read, ofChecked_eq_ok_iff]
    simp [modifier_str_eq_ok_iff, @eq_comm _ e]
  | map entries =>
    rw [Entry.read]
    cases flat : isFlat entries <;> simp [ofChecked_eq_ok_iff, flat, @eq_comm _ e]
  | _ => simp [Entry.read]

/-! ## What an entry sets -/

namespace Entry

/-- The modifier that a word sets for the extensions that no entry lists. -/
def word? : Entry → Option Modifier
  | .word m => some m
  | _ => none

/-- The modifiers that an entry lists. -/
def table : Entry → Table Modifier
  | .word _ => []
  | .flat pattern => pattern
  | .structured o => o.pattern.getD []

/-- The modifier that an entry lists for an extension. -/
def modifier? (extension : Text) (e : Entry) : Option Modifier := e.table.find? extension

/-- What an entry sets about package mains. -/
def ignorePackages? : Entry → Option Bool
  | .structured o => o.ignorePackages
  | _ => none

/-- What an entry sets about calls of `require`. -/
def commonjs? : Entry → Option Bool
  | .structured o => o.commonjs
  | _ => none

/-- An entry that was read lists every extension once. -/
theorem nodup_table {v : Value} {e : Entry} (h : Entry.read v = .ok e) : e.table.keys.Nodup := by
  rcases read_eq_ok_iff.1 h with ⟨m, -, rfl⟩ | ⟨entries, pattern, -, -, read, rfl⟩ |
    ⟨entries, o, -, -, read, rfl⟩
  · exact Table.nodup_keys_nil
  · exact Reader.nodup_of_table read
  · have field := (overrides_eq_ok_iff.1 read).1
    cases set : o.pattern with
    | none => simpa [table, set] using Table.nodup_keys_nil
    | some pattern =>
      rw [set] at field
      rcases Reader.defaulted_eq_ok_iff.1 field with ⟨-, absurd⟩ | ⟨value, -, given⟩
      · cases absurd
      rcases (Reader.optional_eq_ok_iff nofun).1 given with ⟨-, absurd⟩ | ⟨listed, read, same⟩
      · cases absurd
      · obtain rfl := Option.some.inj same
        simpa [table, set] using Reader.nodup_of_table read

theorem isSome_text?_of_read {v : Value} {e : Entry} (h : Entry.read v = .ok e) :
    v.text?.isSome = e.word?.isSome := by
  rcases read_eq_ok_iff.1 h with ⟨m, rfl, rfl⟩ | ⟨entries, pattern, rfl, -, -, rfl⟩ |
    ⟨entries, o, rfl, -, -, rfl⟩ <;> rfl

end Entry

end ImportPolicy.Policy
