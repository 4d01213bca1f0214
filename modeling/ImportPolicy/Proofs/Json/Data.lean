import ImportPolicy.Number.Shortest
import ImportPolicy.Value.Basic
import Mathlib.Data.List.Nodup

/-! # JSON data

* `Text.isScalar`, `Text.exists_ofChars` — texts without lone surrogates.
* `Value.isJson` — the values that JSON can hold in such texts.
* `Value.areJson_iff`, `Value.isJson_map_iff`, `Value.isJson_of_find?` — lists and mappings. -/

namespace ImportPolicy

namespace Text

/-- Whether a text is without lone surrogates. -/
def isScalar (t : Text) : Bool := t.all fun c => c.char?.isSome

theorem isScalar_ofChars (cs : List Char) : (ofChars cs).isScalar = true := by
  simp [isScalar, ofChars, CodePoint.char?]

theorem isScalar_append {s t : Text} :
    (s ++ t).isScalar = true ↔ s.isScalar = true ∧ t.isScalar = true := by
  simp [isScalar]

theorem isScalar_string_append (s : String) (t : Text) : (s ++ t).isScalar = t.isScalar := by
  rw [Bool.eq_iff_iff]
  exact isScalar_append.trans (and_iff_right (isScalar_ofChars _))

theorem isScalar_append_string (t : Text) (s : String) : (t ++ s).isScalar = t.isScalar := by
  rw [Bool.eq_iff_iff]
  exact isScalar_append.trans (and_iff_left (isScalar_ofChars _))

theorem isScalar_append_eq (s t : Text) : (s ++ t).isScalar = (s.isScalar && t.isScalar) :=
  List.all_append

theorem isScalar_ofString (s : String) : (ofString s).isScalar = true := isScalar_ofChars _

/-- A text without lone surrogates is one of characters. -/
theorem exists_ofChars {t : Text} (scalar : t.isScalar = true) : ∃ cs, t = ofChars cs := by
  induction t with
  | nil => exact ⟨[], rfl⟩
  | cons c t inductionHypothesis =>
    simp only [isScalar, List.all_cons, Bool.and_eq_true] at scalar
    cases c with
    | surrogate offset => cases scalar.1
    | scalar c =>
      obtain ⟨cs, rfl⟩ := inductionHypothesis scalar.2
      exact ⟨c :: cs, rfl⟩

end Text

theorem Binary64.isScalar_spell (x : Binary64) : x.spell.isScalar = true := by
  unfold spell
  split
  · rfl
  · split <;> rfl
  · exact Text.isScalar_ofChars _

namespace Value

mutual

/-- Whether a value is JSON data without lone surrogates. The keys of a mapping are texts, and no two
    are the same. -/
def isJson : Value → Bool
  | .null | .bool _ | .int _ | .float _ => true
  | .str t => t.isScalar
  | .list items => areJson items
  | .map entries => decide (entries.map fun e => e.1.text?).Nodup && areJsonEntries entries
  | .date _ | .moment _ | .bytes _ | .set _ | .pair _ _ => false

/-- Whether all items are JSON data. -/
def areJson : List Value → Bool
  | [] => true
  | item :: items => isJson item && areJson items

/-- Whether the entries of a mapping have texts as keys and JSON data at them. -/
def areJsonEntries : List (Value × Value) → Bool
  | [] => true
  | (key, value) :: entries =>
    key.text?.any Text.isScalar && isJson value && areJsonEntries entries

end

theorem text?_eq_some_iff {v : Value} {t : Text} : v.text? = some t ↔ v = .str t := by
  cases v <;> simp [text?]

theorem areJson_iff (items : List Value) :
    areJson items = true ↔ ∀ v ∈ items, v.isJson = true := by
  induction items with
  | nil => simp [areJson]
  | cons v items inductionHypothesis => simp [areJson, inductionHypothesis]

theorem areJsonEntries_iff (entries : Mapping) : areJsonEntries entries = true ↔
    ∀ e ∈ entries, (∃ t : Text, e.1 = .str t ∧ t.isScalar = true) ∧ e.2.isJson = true := by
  induction entries with
  | nil => simp [areJsonEntries]
  | cons e entries inductionHypothesis =>
    simp [areJsonEntries, inductionHypothesis, Option.any_eq_true, text?_eq_some_iff]

theorem isJson_map_iff (entries : Mapping) : (Value.map entries).isJson = true ↔
    (entries.map fun e => e.1.text?).Nodup ∧
      ∀ e ∈ entries, (∃ t : Text, e.1 = .str t ∧ t.isScalar = true) ∧ e.2.isJson = true := by
  rw [isJson, Bool.and_eq_true, decide_eq_true_iff, areJsonEntries_iff]

theorem isJson_of_find? {entries : Mapping} {v : Value}
    (json : (Value.map entries).isJson = true) {name : String}
    (found : Mapping.find? entries name = some v) : v.isJson = true := by
  obtain ⟨-, inside⟩ := (isJson_map_iff entries).1 json
  obtain ⟨e, listed, rfl⟩ := Option.map_eq_some_iff.1 found
  exact (inside e (List.mem_of_find?_eq_some listed)).2

end Value

end ImportPolicy
