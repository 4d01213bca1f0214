import ImportPolicy.Proofs.Json.Data
import ImportPolicy.Proofs.Text.Tables
import ImportPolicy.Schema.Reader

/-! # What readers read

Each reader is stated here once, by the values it reads and the data it reads from them.

* `Reader.model_eq_ok_iff`, `Reader.required_eq_ok_iff`, `Reader.defaulted_eq_ok_iff` — fields.
* `Reader.Sets`, `Reader.nullable_eq_ok_iff` — fields that may be absent or null.
* `Reader.nodup_of_table`, `Reader.table_eq_ok_iff` — tables.
* `Reader.TruthValue`, `Reader.truth_eq_ok_iff` — the ways to write a truth value in JSON. -/

namespace ImportPolicy.Schema.Reader

variable {α : Type} {entries : Mapping} {name : String} {r : Reader α} {v : Value}

/-! ## Fields -/

/-- What a field sets where `stands` says what its value stands for: nothing if it is absent or
    null. -/
inductive Sets (entries : Mapping) (name : String) (stands : Value → α → Prop) : Option α → Prop where
  | absent (missing : Mapping.find? entries name = none) : Sets entries name stands none
  | null (empty : Mapping.find? entries name = some .null) : Sets entries name stands none
  | value {v a} (found : Mapping.find? entries name = some v) (meant : stands v a) :
      Sets entries name stands (some a)

/-- What a field sets depends on what is found under its name. -/
theorem Sets.congr {other : String} {stands : Value → α → Prop} {o : Option α}
    (same : Mapping.find? entries name = Mapping.find? entries other)
    (set : Sets entries name stands o) : Sets entries other stands o := by
  cases set with
  | absent missing => exact .absent (same ▸ missing)
  | null empty => exact .null (same ▸ empty)
  | value found meant => exact .value (same ▸ found) meant

theorem optional_eq_ok_iff (notNull : ∀ a, r .null ≠ .ok a) {o : Option α} :
    optional r v = .ok o ↔ v = .null ∧ o = none ∨ ∃ a, r v = .ok a ∧ o = some a := by
  cases v with
  | null => simp [optional, notNull, eq_comm]
  | _ => simp only [optional]; cases r _ <;> simp [eq_comm]

theorem model_eq_ok_iff {fields : Mapping → Checked α} {a : α} : model name fields v = .ok a ↔
    ∃ entries, v = .map entries ∧ fields entries = .ok a := by
  cases v <;> simp [model, Value.mapping?, Checked.complain]

theorem required_eq_ok_iff {a : α} : required entries name r = .ok a ↔
    ∃ v, Mapping.find? entries name = some v ∧ r v = .ok a := by
  unfold required
  cases Mapping.find? entries name with
  | none => simp [Checked.under, Checked.complain]
  | some v => simp

theorem defaulted_eq_ok_iff {absent a : α} : defaulted entries name absent r = .ok a ↔
    Mapping.find? entries name = none ∧ a = absent ∨
      ∃ v, Mapping.find? entries name = some v ∧ r v = .ok a := by
  unfold defaulted
  cases Mapping.find? entries name with
  | none => simp [eq_comm]
  | some v => simp

/-- A nullable field sets what its reader reads. -/
theorem nullable_eq_ok_iff {stands : Value → α → Prop} (notNull : ∀ a, r .null ≠ .ok a)
    (reads : ∀ v, Mapping.find? entries name = some v → ∀ a, r v = .ok a ↔ stands v a)
    {o : Option α} : defaulted entries name none (optional r) = .ok o ↔
      Sets entries name stands o := by
  rw [defaulted_eq_ok_iff]
  constructor
  · rintro (⟨missing, rfl⟩ | ⟨v, found, read⟩)
    · exact .absent missing
    · rcases (optional_eq_ok_iff notNull).1 read with ⟨rfl, rfl⟩ | ⟨a, meant, rfl⟩
      · exact .null found
      · exact .value found ((reads v found a).1 meant)
  · intro set
    cases set with
    | absent missing => exact .inl ⟨missing, rfl⟩
    | null empty => exact .inr ⟨_, empty, rfl⟩
    | value found meant =>
      exact .inr ⟨_, found,
        (optional_eq_ok_iff notNull).2 (.inr ⟨_, (reads _ found _).2 meant, rfl⟩)⟩

/-! ## Tables -/

theorem entry_eq_ok_iff {e : Value × Value} {read : Text × α} :
    entry r e = .ok read ↔ text e.1 = .ok read.1 ∧ r e.2 = .ok read.2 := by
  rw [entry, Checked.seq_eq_ok_iff]
  simp only [Checked.under_eq_ok_iff]
  cases text e.1 with
  | bad problems => simp [Checked.under]
  | ok key => simp [Checked.under, Prod.ext_iff, and_comm]

theorem nodup_of_table {read : Table α} (h : table r v = .ok read) : read.keys.Nodup := by
  unfold table at h
  split at h
  next entries _ =>
    cases all : Checked.all (entries.map (entry r)) with
    | bad problems => rw [all] at h; cases h
    | ok written =>
      rw [all] at h
      cases h
      exact Table.nodup_keys_update Table.nodup_keys_nil written
  next => cases h

/-- A mapping whose keys are texts is read entry by entry. -/
theorem entries_eq_ok_iff {write : α → Value} (texts : ∀ e ∈ entries, ∃ t : Text, e.1 = .str t)
    (reads : ∀ e ∈ entries, ∀ a, r e.2 = .ok a ↔ e.2 = write a) {read : Table α} :
    Checked.all (entries.map (entry r)) = .ok read ↔
      entries = read.map fun e => (.str e.1, write e.2) := by
  rw [Checked.all_eq_ok_iff]
  induction entries generalizing read with
  | nil => cases read <;> simp
  | cons e entries inductionHypothesis =>
    rw [List.forall_mem_cons] at texts reads
    obtain ⟨⟨key, isText⟩, texts⟩ := texts
    cases read with
    | nil => simp
    | cons first read =>
      rw [List.map_cons, List.map_cons, List.map_cons, List.cons.injEq, List.cons.injEq,
        inductionHypothesis texts reads.2, entry_eq_ok_iff, reads.1, isText]
      simp [text, lenientText?, Prod.ext_iff, isText]

/-- A mapping whose keys are different texts is read as the table of the data at them. -/
theorem table_eq_ok_iff {write : α → Value} (json : (Value.map entries).isJson = true)
    (reads : ∀ e ∈ entries, ∀ a, r e.2 = .ok a ↔ e.2 = write a) {read : Table α} :
    table r (.map entries) = .ok read ↔ entries = read.map fun e => (.str e.1, write e.2) := by
  obtain ⟨different, inside⟩ := (Value.isJson_map_iff entries).1 json
  have texts : ∀ e ∈ entries, ∃ t : Text, e.1 = .str t := fun e member =>
    (inside e member).1.imp fun _ key => key.1
  have nodup {written : Table α} (same : entries = written.map fun e => (.str e.1, write e.2)) :
      written.keys.Nodup := by
    refine List.Nodup.of_map some ?_
    rw [same] at different
    simpa [Function.comp_def, Table.keys, Value.text?] using different
  change Table.update [] <$> Checked.all (entries.map (entry r)) = .ok read ↔ _
  rw [← entries_eq_ok_iff texts reads]
  cases all : Checked.all (entries.map (entry r)) with
  | bad problems => simp
  | ok written =>
    rw [Checked.map_ok, Table.update_nil_left (nodup ((entries_eq_ok_iff texts reads).1 all))]

/-! ## Truth values -/

/-- A code point with an ASCII capital made small. -/
def lowered : CodePoint → CodePoint
  | .scalar c => .scalar c.toLower
  | c => c

/-- The words for a truth value. -/
def truthWords : Bool → List String
  | false => ["0", "f", "n", "no", "off", "false"]
  | true => ["1", "t", "y", "on", "yes", "true"]

/-- The JSON data that stand for a truth value: it itself, zero or one as an integer or a double, and
    the words for it in capitals and small letters. -/
inductive TruthValue : Value → Bool → Prop where
  | bool (b : Bool) : TruthValue (.bool b) b
  | int (b : Bool) : TruthValue (.int b.toInt) b
  | float {x : Binary64} {b : Bool} (whole : x.toInt? = some b.toInt) : TruthValue (.float x) b
  | word {t : Text} {b : Bool} (listed : t.map lowered ∈ (truthWords b).map Text.ofString) :
      TruthValue (.str t) b

theorem truthWord?_eq_some_iff {t : Text} {b : Bool} :
    truthWord? t = some b ↔ t.map lowered ∈ (truthWords b).map Text.ofString := by
  have disjoint : ∀ word ∈ (truthWords true).map Text.ofString,
      word ∉ (truthWords false).map Text.ofString := by
    decide
  change (if t.map lowered ∈ (truthWords false).map Text.ofString then some false
    else if t.map lowered ∈ (truthWords true).map Text.ofString then some true else none) = _ ↔ _
  cases b with
  | false => split <;> simp_all
  | true =>
    split
    next isFalse => simpa using fun isTrue => disjoint _ isTrue isFalse
    next => split <;> simp_all

theorem truthOfInt_eq_ok_iff {i : Int} {b : Bool} : truthOfInt i = .ok b ↔ i = b.toInt := by
  unfold truthOfInt
  by_cases zero : i = 0
  · cases b <;> simp [zero]
  · by_cases one : i = 1 <;> cases b <;> simp [zero, one, Checked.complain]

theorem truth_eq_ok_iff (json : v.isJson = true) {b : Bool} :
    truth v = .ok b ↔ TruthValue v b := by
  constructor
  · intro h
    cases v with
    | bool given =>
      cases h
      exact .bool b
    | int i =>
      rw [truth] at h
      split at h
      · exact truthOfInt_eq_ok_iff.1 h ▸ .int b
      · cases h
    | float x =>
      rw [truth] at h
      split at h
      next i whole =>
        split at h
        · exact .float (truthOfInt_eq_ok_iff.1 h ▸ whole)
        · cases h
      next => cases h
    | str t =>
      simp only [truth, lenientText?] at h
      split at h
      next given listed =>
        cases h
        exact .word (truthWord?_eq_some_iff.1 listed)
      next => cases h
    | null | list _ | map _ | date _ | moment _ | set _ | pair _ _ => cases h
    | bytes _ => cases json
  · intro stands
    have inRange : -Bounds.int64 < b.toInt ∧ b.toInt < Bounds.int64 := by cases b <;> decide
    cases stands with
    | bool => rfl
    | int => rw [truth, if_pos ⟨Int.le_of_lt inRange.1, inRange.2⟩, truthOfInt_eq_ok_iff]
    | float whole => simp only [truth, whole, if_pos inRange, truthOfInt_eq_ok_iff]
    | word listed =>
      simp only [truth, lenientText?, truthWord?_eq_some_iff.2 listed]

end ImportPolicy.Schema.Reader
