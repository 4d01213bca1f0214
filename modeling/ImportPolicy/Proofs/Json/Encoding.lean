import ImportPolicy.Json.Printer
import ImportPolicy.Proofs.Json.Data
import ImportPolicy.Proofs.Text.Numerals

/-! # Which values have JSON in bytes

JSON writes a lone surrogate as it is, and everything else in characters. What is written of a value
therefore has bytes exactly if none of its texts holds a lone surrogate.

* `Value.isEncodable` — values without lone surrogates in their texts.
* `Json.isScalar_writeString`, `Json.isScalar_render` — what is written of a text and of a value. -/

namespace ImportPolicy

/-! ## Values -/

namespace Value

mutual

/-- Whether no text that is written of a value holds a lone surrogate. -/
def isEncodable : Value → Bool
  | .str t => t.isScalar
  | .list items => areEncodable items
  | .map entries => areEncodableEntries entries
  | _ => true

/-- Whether this is so of all items. -/
def areEncodable : List Value → Bool
  | [] => true
  | item :: items => isEncodable item && areEncodable items

/-- Whether this is so of the keys and values of all entries. -/
def areEncodableEntries : List (Value × Value) → Bool
  | [] => true
  | (key, value) :: entries => isEncodable key && isEncodable value && areEncodableEntries entries

end

theorem areEncodable_eq (items : List Value) : areEncodable items = items.all isEncodable := by
  induction items with
  | nil => rfl
  | cons item items inductionHypothesis => rw [areEncodable, inductionHypothesis, List.all_cons]

theorem areEncodableEntries_eq (entries : List (Value × Value)) :
    areEncodableEntries entries = entries.all fun e => e.1.isEncodable && e.2.isEncodable := by
  induction entries with
  | nil => rfl
  | cons e entries inductionHypothesis =>
    rw [areEncodableEntries, inductionHypothesis, List.all_cons]

end Value

namespace Json

/-! ## What is written -/

theorem isScalar_writePoint (c : CodePoint) : (writePoint c).isScalar = c.char?.isSome := by
  cases c with
  | scalar c =>
    rw [writePoint]
    split_ifs <;> rfl
  | surrogate offset =>
    have number : (CodePoint.surrogate offset).toNat = 0xD800 + offset.val := rfl
    rw [writePoint, number]
    split_ifs <;> first | omega | rfl | contradiction

theorem isScalar_writeString (t : Text) : (writeString t).isScalar = t.isScalar := by
  rw [writeString, Text.isScalar_append_string, Text.isScalar_string_append, Text.isScalar,
    List.all_flatMap]
  exact congrArg t.all (funext isScalar_writePoint)

theorem isScalar_newLine (depth : Nat) : (newLine depth).isScalar = true := Text.isScalar_ofChars _

mutual

/-- The JSON of a value has bytes exactly if no text that is written of it holds a lone surrogate. -/
theorem isScalar_render (depth : Nat) (v : Value) :
    (render depth v).isScalar = v.isEncodable := by
  cases v with
  | str t => exact isScalar_writeString t
  | list items =>
    cases items with
    | nil => rfl
    | cons item items =>
      simp only [render, Value.isEncodable, Value.areEncodable, Text.isScalar_append_eq,
        Text.isScalar_ofString, isScalar_newLine, Bool.and_true, Bool.true_and,
        isScalar_render (depth + 1) item, isScalar_renderItems depth items]
  | map entries =>
    cases entries with
    | nil => rfl
    | cons e entries =>
      obtain ⟨key, value⟩ := e
      simp only [render, Value.isEncodable, Value.areEncodableEntries, Text.isScalar_append_eq,
        Text.isScalar_ofString, isScalar_newLine, Bool.and_true, Bool.true_and,
        isScalar_render (depth + 1) key, isScalar_render (depth + 1) value,
        isScalar_renderEntries depth entries]
  | bool b => cases b <;> rfl
  | int i =>
    change (Text.ofInt i).isScalar = true
    rw [Text.ofInt_eq_ofChars, Text.isScalar_ofChars]
  | float x => exact Binary64.isScalar_spell x
  | _ => rfl

theorem isScalar_renderItems (depth : Nat) (items : List Value) :
    (renderItems depth items).isScalar = Value.areEncodable items := by
  cases items with
  | nil => simp only [renderItems, Value.areEncodable, Text.isScalar_append_string, isScalar_newLine]
  | cons item items =>
    simp only [renderItems, Value.areEncodable, Text.isScalar_append_eq,
      Text.isScalar_ofString, isScalar_newLine, Bool.and_true, Bool.true_and,
      isScalar_render (depth + 1) item, isScalar_renderItems depth items]

theorem isScalar_renderEntries (depth : Nat) (entries : List (Value × Value)) :
    (renderEntries depth entries).isScalar = Value.areEncodableEntries entries := by
  cases entries with
  | nil =>
    simp only [renderEntries, Value.areEncodableEntries, Text.isScalar_append_string,
      isScalar_newLine]
  | cons e entries =>
    obtain ⟨key, value⟩ := e
    simp only [renderEntries, Value.areEncodableEntries, Text.isScalar_append_eq,
      Text.isScalar_ofString, isScalar_newLine, Bool.and_true, Bool.true_and,
      isScalar_render (depth + 1) key, isScalar_render (depth + 1) value,
      isScalar_renderEntries depth entries]

end

end Json

end ImportPolicy
