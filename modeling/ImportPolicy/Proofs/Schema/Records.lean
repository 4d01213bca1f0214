import ImportPolicy.Proofs.Config.Layering
import ImportPolicy.Proofs.Schema.Reading
import ImportPolicy.Snapshot.Value

/-! # Values with named fields

A value that was made of data is read as the data, if what was made of each of their parts is.

* `Mapping.record`, `Mapping.find?_record` — the field under a name.
* `Reader.required_record`, `Reader.defaulted_record` — reading a field.
* `Reader.list_map`, `Reader.optional_ofOption`, `Reader.table_ofTable` — data made of data. -/

namespace ImportPolicy

namespace Mapping

/-- The entries of a value with named fields. -/
def record (fields : List (String × Value)) : Mapping := fields.map fun f => (.str f.1, f.2)

theorem find?_record (fields : List (String × Value)) (name : String) :
    find? (record fields) name = fields.lookup name := by
  induction fields with
  | nil => rfl
  | cons f fields inductionHypothesis =>
    obtain ⟨key, v⟩ := f
    change find? ((.str key, v) :: record fields) name = _
    rw [find?_cons, inductionHypothesis, List.lookup_cons]
    by_cases same : name = key
    · simp [Value.sameKey, same]
    · have other : (name == key) = false := beq_false_of_ne same
      have different : Text.ofString key ≠ Text.ofString name := by
        intro spelt
        rw [Text.ofString, Text.ofString, Text.ofChars_inj, String.toList_inj] at spelt
        exact same spelt.symm
      simp [Value.sameKey, other, different]

end Mapping

namespace Schema.Reader

variable {α : Type} {r : Reader α} {write : α → Value} {fields : List (String × Value)}
  {name : String} {v : Value}

theorem model_record (name : String) (read : Mapping → Checked α)
    (fields : List (String × Value)) :
    model name read (Value.record fields) = read (Mapping.record fields) := rfl

theorem required_record (found : fields.lookup name = some v) :
    required (Mapping.record fields) name r = (r v).under (.name name) := by
  rw [required, Mapping.find?_record, found]

theorem defaulted_record (found : fields.lookup name = some v) (absent : α) :
    defaulted (Mapping.record fields) name absent r = (r v).under (.name name) := by
  rw [defaulted, Mapping.find?_record, found]

theorem listFrom_map {as : List α} (back : ∀ a ∈ as, r (write a) = .ok a) (start : Nat) :
    listFrom r start (as.map write) = as.map .ok := by
  induction as generalizing start with
  | nil => rfl
  | cons a as inductionHypothesis =>
    rw [List.forall_mem_cons] at back
    rw [List.map_cons, listFrom, back.1, inductionHypothesis back.2]
    rfl

theorem list_map {as : List α} (back : ∀ a ∈ as, r (write a) = .ok a) :
    list r (.list (as.map write)) = .ok as := by
  change Checked.all (listFrom r 0 (as.map write)) = _
  rw [Checked.all_eq_ok_iff, listFrom_map back]

theorem optional_ofOption {o : Option α} (back : ∀ a ∈ o, r (write a) = .ok a)
    (notNull : ∀ a, write a ≠ .null) : optional r (Value.ofOption write o) = .ok o := by
  cases o with
  | none => rfl
  | some a =>
    change optional r (write a) = _
    unfold optional
    split
    next null => exact absurd null (notNull a)
    next => rw [back a rfl, Checked.map_ok]

theorem table_ofTable {t : Table α} (distinct : t.keys.Nodup)
    (back : ∀ e ∈ t, r (write e.2) = .ok e.2) : table r (Value.ofTable write t) = .ok t := by
  have all : Checked.all ((t.map fun e => (Value.str e.1, write e.2)).map (entry r)) = .ok t := by
    rw [Checked.all_eq_ok_iff, List.map_map]
    exact List.map_congr_left fun e member => entry_eq_ok_iff.2 ⟨rfl, back e member⟩
  change (Table.update []) <$> Checked.all _ = _
  rw [all, Checked.map_ok, Table.update_nil_left distinct]

end Schema.Reader

end ImportPolicy
