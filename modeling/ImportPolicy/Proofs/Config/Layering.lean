import ImportPolicy.Config.Layer

/-! # Keys of layers

A layer only ever adds keys: what lies below is overridden key by key, and no key goes away.

* `Value.sameKey_str_iff` — a text is the same key as itself alone.
* `Mapping.find?_put` — what is found after an entry has been written.
* `Config.has_layer` — the keys of one mapping over another. -/

namespace ImportPolicy

variable {key other value : Value} {entries : Mapping} {t : Text}

/-! ## Keys that are texts -/

theorem Value.sameKey_str_iff : key.sameKey (.str t) = true ↔ key = .str t := by
  cases key <;> simp [sameKey, keyInt?]

theorem Value.str_sameKey_iff : Value.sameKey (.str t) key = true ↔ key = .str t := by
  cases key <;> simp [sameKey, keyInt?, eq_comm]

/-- Of two values that are one key, both are a text or neither is. -/
theorem Value.sameKey_str_congr (same : key.sameKey other = true) :
    key.sameKey (.str t) = other.sameKey (.str t) := by
  rw [Bool.eq_iff_iff, sameKey_str_iff, sameKey_str_iff]
  constructor
  · rintro rfl
    exact str_sameKey_iff.1 same
  · rintro rfl
    exact sameKey_str_iff.1 same

/-! ## Writing entries -/

namespace Mapping

theorem find?_cons (key value : Value) (rest : Mapping) (t : Text) :
    find? ((key, value) :: rest) t = if key.sameKey (.str t) then some value else rest.find? t := by
  rw [find?, get?, List.find?_cons]
  cases key.sameKey (.str t) <;> rfl

theorem find?_put (entries : Mapping) (key value : Value) (t : Text) :
    (entries.put key value).find? t =
      if key.sameKey (.str t) then some value else entries.find? t := by
  induction entries with
  | nil => rw [put, find?_cons]
  | cons entry rest inductionHypothesis =>
    obtain ⟨listed, old⟩ := entry
    rw [put]
    split
    next same =>
      rw [find?_cons, find?_cons, Value.sameKey_str_congr same]
      cases key.sameKey (.str t) <;> rfl
    next differs =>
      rw [find?_cons, find?_cons, inductionHypothesis]
      -- The entry's key and the new one are not both the text, or they would be one key.
      by_cases listedText : listed.sameKey (.str t) = true
      · have newOther : key.sameKey (.str t) = false := by
          rw [Value.sameKey_str_iff] at listedText
          subst listedText
          rw [← Bool.not_eq_true, Value.sameKey_str_iff, ← Value.str_sameKey_iff]
          exact differs
        simp only [listedText, newOther, if_true]
        rfl
      · simp only [listedText]
        rfl

theorem find?_put_self (entries : Mapping) (t : Text) (value : Value) :
    (entries.put (.str t) value).find? t = some value := by
  rw [find?_put, if_pos (by simp [Value.sameKey])]

@[simp] theorem has_nil : has [] t = false := rfl

theorem has_cons (key value : Value) (rest : Mapping) (t : Text) :
    has ((key, value) :: rest) t = (key.sameKey (.str t) || rest.has t) := by
  rw [has, find?_cons]
  cases key.sameKey (.str t) <;> rfl

theorem has_put (entries : Mapping) (key value : Value) (t : Text) :
    (entries.put key value).has t = (key.sameKey (.str t) || entries.has t) := by
  rw [has, find?_put]
  cases key.sameKey (.str t) <;> rfl

end Mapping

/-! ## Layers -/

namespace Config

/-- The keys of a mapping over another one are those of both. -/
theorem has_layer (base upper : Mapping) (t : Text) :
    (layer base upper).has t = (base.has t || upper.has t) := by
  induction upper generalizing base with
  | nil => rw [layer_nil, Mapping.has_nil, Bool.or_false]
  | cons entry rest inductionHypothesis =>
    obtain ⟨key, value⟩ := entry
    rw [layer, inductionHypothesis, Mapping.has_put, Mapping.has_cons, Bool.or_comm (key.sameKey _),
      Bool.or_assoc]

end Config

end ImportPolicy
