import ImportPolicy.Proofs.Schema.Reading

/-! # What JSON data are read as

A property of all data that a reader reads from JSON. It is put together as the reader is.

* `Reader.Yields` — a reader reads only data with a property from JSON.
* `Reader.text_yields`, `Reader.list_yields`, `Reader.optional_yields`, `Reader.table_yields` — texts,
  and data made of data.
* `Reader.required_yields`, `Reader.defaulted_yields`, `Reader.model_yields` — fields. -/

namespace ImportPolicy

/-- Every byte is part of a character. -/
theorem Utf8.decode?_eq_nil_iff {bs : List UInt8} {cs : List Char}
    (decoded : decode? bs = some cs) : cs = [] ↔ bs = [] := by
  cases bs with
  | nil =>
    cases decoded
    simp
  | cons b bs =>
    refine iff_of_false ?_ (List.cons_ne_nil _ _)
    rintro rfl
    unfold decode? at decoded
    dsimp only at decoded
    -- Whatever the first byte announces, a character comes out before the rest.
    repeat' split at decoded
    all_goals simp [Option.bind_eq_some_iff] at decoded

namespace Schema.Reader

variable {α : Type} {entries : Mapping} {name : String} {r : Reader α} {P : α → Prop} {v : Value}

/-- A reader reads only data with a property from JSON. -/
def Yields (r : Reader α) (P : α → Prop) : Prop :=
  ∀ ⦃v : Value⦄, v.isJson = true → ∀ ⦃a : α⦄, r v = .ok a → P a

/-! ## Texts, and data made of data -/

theorem text_eq_ok_iff (json : v.isJson = true) {t : Text} : text v = .ok t ↔ v = .str t := by
  cases v with
  | str given => simp [text, lenientText?]
  | bytes _ => cases json
  | _ => simp [text, lenientText?, Checked.complain]

/-- Only the empty text and no bytes are read as the empty text. -/
theorem isTruthy_iff_of_text {t : Text} (read : text v = .ok t) : v.isTruthy = true ↔ t ≠ [] := by
  cases v with
  | str given =>
    cases read
    cases t <;> simp [Value.isTruthy]
  | bytes bs =>
    rw [text, lenientText?] at read
    cases decoded : Utf8.decode? bs with
    | none =>
      rw [decoded] at read
      cases read
    | some cs =>
      rw [decoded] at read
      cases read
      rw [Ne, Text.ofChars, List.map_eq_nil_iff, Utf8.decode?_eq_nil_iff decoded]
      simp [Value.isTruthy]
  | _ => cases read

theorem text_yields : Yields text fun t => t.isScalar = true := by
  intro v json t read
  obtain rfl := (text_eq_ok_iff json).1 read
  exact json

theorem exists_of_mem_list {start : Nat} {items : List Value} {as : List α}
    (read : Checked.all (listFrom r start items) = .ok as) {a : α} (member : a ∈ as) :
    ∃ v ∈ items, r v = .ok a := by
  rw [Checked.all_eq_ok_iff] at read
  induction items generalizing start as with
  | nil =>
    cases as with
    | nil => cases member
    | cons => cases read
  | cons v items inductionHypothesis =>
    cases as with
    | nil => cases member
    | cons first as =>
      rw [listFrom, List.map_cons, List.cons.injEq, Checked.under_eq_ok_iff] at read
      rcases List.mem_cons.1 member with rfl | member
      · exact ⟨v, List.mem_cons_self, read.1⟩
      · obtain ⟨w, listed, found⟩ := inductionHypothesis read.2 member
        exact ⟨w, List.mem_cons_of_mem v listed, found⟩

theorem exists_of_list {as : List α} (read : list r v = .ok as) {a : α} (member : a ∈ as) :
    ∃ items, items? v = some items ∧ ∃ w ∈ items, r w = .ok a := by
  unfold list at read
  split at read
  next items held => exact ⟨items, held, exists_of_mem_list read member⟩
  next => cases read

theorem of_optional {o : Option α} (read : optional r v = .ok o) {a : α} (member : a ∈ o) :
    r v = .ok a := by
  obtain rfl := Option.mem_def.1 member
  cases v with
  | null => cases read
  | _ =>
    obtain ⟨_, found, same⟩ := (Checked.map_eq_ok_iff ..).1 read
    cases same
    exact found

theorem list_yields (item : Yields r P) : Yields (list r) fun as => ∀ a ∈ as, P a := by
  intro v json as read a member
  obtain ⟨items, held, w, listed, found⟩ := exists_of_list read member
  cases v with
  | list items =>
    cases held
    exact item ((Value.areJson_iff items).1 json w listed) found
  | set _ | pair _ _ => cases json
  | _ => cases held

theorem optional_yields (datum : Yields r P) : Yields (optional r) fun o => ∀ a ∈ o, P a :=
  fun _ json _ read _ member => datum json (of_optional read member)

theorem table_yields : Yields (table r) fun t => ∀ e ∈ t, e.1.isScalar = true := by
  intro v json t read
  cases v with
  | map entries =>
    obtain ⟨written, all, rfl⟩ := (Checked.map_eq_ok_iff ..).1 read
    refine Table.forall_mem_update (List.forall_mem_nil _) fun e member => ?_
    obtain ⟨held, listed, found⟩ : ∃ held ∈ entries, entry r held = .ok e := by
      rw [Checked.all_eq_ok_iff] at all
      exact List.mem_map.1 (all ▸ List.mem_map_of_mem member)
    obtain ⟨⟨key, isText, scalar⟩, -⟩ := ((Value.isJson_map_iff entries).1 json).2 held listed
    have here := (entry_eq_ok_iff.1 found).1
    rw [isText] at here
    cases here
    exact scalar
  | _ => cases read

/-! ## Fields -/

theorem required_yields (datum : Yields r P) (json : (Value.map entries).isJson = true) {a : α}
    (read : required entries name r = .ok a) : P a := by
  obtain ⟨v, found, read⟩ := required_eq_ok_iff.1 read
  exact datum (Value.isJson_of_find? json found) read

theorem defaulted_yields (datum : Yields r P) {absent : α} (default : P absent)
    (json : (Value.map entries).isJson = true) {a : α}
    (read : defaulted entries name absent r = .ok a) : P a := by
  rcases defaulted_eq_ok_iff.1 read with ⟨-, rfl⟩ | ⟨v, found, read⟩
  · exact default
  · exact datum (Value.isJson_of_find? json found) read

theorem model_yields {fields : Mapping → Checked α}
    (inside : ∀ entries, (Value.map entries).isJson = true → ∀ a, fields entries = .ok a → P a) :
    Yields (model name fields) P := by
  intro v json a read
  cases v with
  | map entries => exact inside entries json a read
  | _ => cases read

end Schema.Reader

end ImportPolicy
