import ImportPolicy.Proofs.Json.Encoding
import ImportPolicy.Proofs.Json.Tokens
import ImportPolicy.Proofs.Text.Tables

/-! # What is written as JSON is read back

JSON over several lines is read as the value that it was written from, if JSON can hold the value:
doubles are left out here, and the keys of a mapping have to be different texts.

* `Mapping.ofTable`, `Mapping.ofList_ofTable` — mappings whose keys are different texts.
* `Json.Holds` — the values that JSON holds as they are.
* `Json.readItems_written`, `Json.readEntries_written` — the insides of lists and mappings.
* `Json.Holds.readsBack`, `Json.Holds.parseWithin?_written` — values inside a text, and as a whole text.
* `Json.Holds.isScalar_render` — what is written is without lone surrogates. -/

namespace ImportPolicy

/-! ## Mappings whose keys are texts -/

namespace Mapping

/-- A table of values as a mapping whose keys are texts. -/
def ofTable (t : Table Value) : Mapping := t.map fun e => (.str e.1, e.2)

theorem put_ofTable (t : Table Value) (key : Text) (v : Value) :
    put (ofTable t) (.str key) v = ofTable (t.put key v) := by
  induction t with
  | nil => rfl
  | cons e t inductionHypothesis =>
    obtain ⟨k, w⟩ := e
    change (if Value.sameKey (.str k) (.str key) then _ else (_, w) :: put (ofTable t) _ v) = _
    rw [inductionHypothesis, Table.put]
    by_cases same : k = key <;> simp [Value.sameKey, same, ofTable]

theorem update_ofTable (t other : Table Value) :
    update (ofTable t) (ofTable other) = ofTable (t.update other) := by
  induction other generalizing t with
  | nil => rfl
  | cons e other inductionHypothesis =>
    change update (put (ofTable t) (.str e.1) e.2) (ofTable other) = _
    rw [put_ofTable, inductionHypothesis]
    rfl

theorem ofList_ofTable {t : Table Value} (distinct : t.keys.Nodup) :
    ofList (ofTable t) = ofTable t := by
  change update (ofTable []) (ofTable t) = _
  rw [update_ofTable, Table.update_nil_left distinct]

end Mapping

namespace Json

open Text

variable {limit : Option Nat} {v : Value} {e : Text × Value} {depth fuel : Nat} {rest : List Char}

/-- A value that JSON whose integers keep to a limit holds as it is: there is no double in it, and the
    keys of every mapping are different texts. -/
inductive Holds (limit : Option Nat) : Value → Prop where
  | null : Holds limit .null
  | bool (b : Bool) : Holds limit (.bool b)
  | int {i : Int} (fits : Fits limit i) : Holds limit (.int i)
  | str {t : Text} (scalar : t.isScalar = true) : Holds limit (.str t)
  | list {items : List Value} (held : ∀ item ∈ items, Holds limit item) : Holds limit (.list items)
  | map {entries : Table Value} (distinct : entries.keys.Nodup)
      (scalar : ∀ e ∈ entries, e.1.isScalar = true) (held : ∀ e ∈ entries, Holds limit e.2) :
      Holds limit (.map (Mapping.ofTable entries))

/-! ## The characters that are written -/

/-- The characters of what is written of a value. -/
def written (depth : Nat) (v : Value) : List Char := scalars (render depth v)

/-- The characters of what is written of an entry of a mapping. -/
def writtenEntry (depth : Nat) (e : Text × Value) : List Char :=
  '\x22' :: (scalars (e.1.flatMap writePoint) ++ '\x22' :: ':' :: ' ' :: written depth e.2)

/-- The characters from behind the bracket or comma in front of an item to the end of the list. -/
def writtenItems (depth : Nat) (item : Value) (items : List Value) : List Char :=
  scalars (newLine (depth + 1)) ++ (written (depth + 1) item ++ scalars (renderItems depth items))

/-- The characters from behind the brace or comma in front of an entry to the end of the mapping. -/
def writtenEntries (depth : Nat) (e : Text × Value) (entries : Table Value) : List Char :=
  scalars (newLine (depth + 1)) ++
    (writtenEntry (depth + 1) e ++ scalars (renderEntries depth (Mapping.ofTable entries)))

theorem written_int (depth : Nat) (i : Int) : written depth (.int i) = numeral i := by
  rw [written, render, ofInt_eq_ofChars, scalars_ofChars]

theorem written_str (depth : Nat) (cs : List Char) : written depth (.str (ofChars cs)) =
    '\x22' :: (scalars ((ofChars cs).flatMap writePoint) ++ ['\x22']) := by
  change scalars (ofChars ['\x22'] ++ _ ++ ofChars ['\x22']) = _
  rw [scalars_append, scalars_append, scalars_ofChars]
  rfl

theorem scalars_newLine (depth : Nat) :
    scalars (newLine depth) = '\n' :: List.replicate (2 * depth) ' ' :=
  scalars_ofChars _

theorem scalars_items (opening : Char) (depth : Nat) (item : Value) (items : List Value) :
    scalars (ofChars [opening] ++ newLine (depth + 1) ++ render (depth + 1) item ++
      renderItems depth items) = opening :: writtenItems depth item items := by
  simp only [scalars_append, scalars_ofChars, writtenItems, written, List.append_assoc]
  rfl

theorem written_list (depth : Nat) (item : Value) (items : List Value) :
    written depth (.list (item :: items)) = '[' :: writtenItems depth item items :=
  scalars_items '[' depth item items

theorem scalars_renderItems_cons (depth : Nat) (item : Value) (items : List Value) :
    scalars (renderItems depth (item :: items)) = ',' :: writtenItems depth item items :=
  scalars_items ',' depth item items

theorem scalars_renderItems_nil (depth : Nat) (rest : List Char) :
    scalars (renderItems depth []) ++ rest = scalars (newLine depth) ++ ']' :: rest := by
  change scalars (newLine depth ++ ofChars [']']) ++ rest = _
  rw [scalars_append, scalars_ofChars, List.append_assoc]
  rfl

theorem scalars_entries (opening : Char) (depth : Nat) (e : Text × Value) (entries : Table Value) :
    scalars (ofChars [opening] ++ newLine (depth + 1) ++
      (ofChars ['\x22'] ++ e.1.flatMap writePoint ++ ofChars ['\x22']) ++ ofChars [':', ' '] ++
        render (depth + 1) e.2 ++ renderEntries depth (Mapping.ofTable entries)) =
      opening :: writtenEntries depth e entries := by
  simp only [scalars_append, scalars_ofChars, writtenEntries, writtenEntry, written,
    List.append_assoc, List.cons_append, List.nil_append]

theorem written_map (depth : Nat) (e : Text × Value) (entries : Table Value) :
    written depth (.map (Mapping.ofTable (e :: entries))) = '\x7b' :: writtenEntries depth e entries :=
  scalars_entries '\x7b' depth e entries

theorem scalars_renderEntries_cons (depth : Nat) (e : Text × Value) (entries : Table Value) :
    scalars (renderEntries depth (Mapping.ofTable (e :: entries))) =
      ',' :: writtenEntries depth e entries :=
  scalars_entries ',' depth e entries

theorem scalars_renderEntries_nil (depth : Nat) (rest : List Char) :
    scalars (renderEntries depth (Mapping.ofTable [])) ++ rest =
      scalars (newLine depth) ++ '\x7d' :: rest := by
  change scalars (newLine depth ++ ofChars ['\x7d']) ++ rest = _
  rw [scalars_append, scalars_ofChars, List.append_assoc]
  rfl

theorem length_written_lt (depth : Nat) (e : Text × Value) :
    (written depth e.2).length < (writtenEntry depth e).length := by
  simp only [writtenEntry, List.length_cons, List.length_append]
  omega

/-! ## White space between tokens -/

theorem skipSpace_newLine (depth : Nat) (cs : List Char) :
    skipSpace (scalars (newLine depth) ++ cs) = skipSpace cs := by
  rw [scalars_newLine, skipSpace, skipSpace, List.dropWhile_append_of_pos]
  intro c member
  rcases List.mem_cons.1 member with rfl | member
  · rfl
  · rw [List.eq_of_mem_replicate member]
    rfl

/-- What is written of a value starts with a token, and not with the end of a list. -/
theorem exists_written_cons (held : Holds limit v) (depth : Nat) :
    ∃ c cs, written depth v = c :: cs ∧ isSpace c = false ∧ c ≠ ']' := by
  cases held with
  | null => exact ⟨'n', _, rfl, rfl, by decide⟩
  | bool b => cases b <;> exact ⟨_, _, rfl, rfl, by decide⟩
  | @int i _ =>
    obtain ⟨c, cs, spelt, other⟩ := exists_numeral_cons i
    refine ⟨c, cs, (written_int depth i).trans spelt, ?_, other _ (by decide) (by decide)⟩
    simp [isSpace, other]
  | @str t scalar =>
    obtain ⟨cs, rfl⟩ := Text.exists_ofChars scalar
    exact ⟨_, _, written_str depth cs, rfl, by decide⟩
  | @list items _ =>
    cases items with
    | nil => exact ⟨'[', _, rfl, rfl, by decide⟩
    | cons item items => exact ⟨_, _, written_list depth item items, rfl, by decide⟩
  | @map entries _ _ _ =>
    cases entries with
    | nil => exact ⟨'\x7b', _, rfl, rfl, by decide⟩
    | cons e entries => exact ⟨_, _, written_map depth e entries, rfl, by decide⟩

theorem skipSpace_written (held : Holds limit v) (depth : Nat) (rest : List Char) :
    skipSpace (written depth v ++ rest) = written depth v ++ rest := by
  obtain ⟨c, cs, same, token, -⟩ := exists_written_cons held depth
  rw [same, List.cons_append, skipSpace, List.dropWhile_cons, token]
  rfl

/-- What may follow a value: the end of the text, a new line or a comma. -/
def MayFollow (rest : List Char) : Prop := ∀ c ∈ rest.head?, c = '\n' ∨ c = ','

theorem MayFollow.nil : MayFollow [] := fun _ none => nomatch none

theorem MayFollow.newLine (depth : Nat) (cs : List Char) :
    MayFollow (scalars (newLine depth) ++ cs) := by
  rw [scalars_newLine]
  rintro _ ⟨⟩
  exact .inl rfl

theorem MayFollow.comma (cs : List Char) : MayFollow (',' :: cs) := by
  rintro _ ⟨⟩
  exact .inr rfl

theorem MayFollow.endsNumber (follows : MayFollow rest) : EndsNumber rest := by
  intro c first
  rcases follows c first with rfl | rfl <;> decide

/-! ## Items and entries -/

/-- A value that is read from what is written of it, whatever comes after it. -/
def ReadsBack (limit : Option Nat) (v : Value) : Prop :=
  ∀ depth fuel rest, (written depth v).length < fuel → MayFollow rest →
    readValue limit fuel (written depth v ++ rest) = some (v, rest)

theorem ReadsBack.of_succ
    (back : ∀ depth fuel rest, (written depth v).length ≤ fuel → MayFollow rest →
      readValue limit (fuel + 1) (written depth v ++ rest) = some (v, rest)) :
    ReadsBack limit v := by
  rintro depth (_ | fuel) rest enough follows
  · exact absurd enough (Nat.not_lt_zero _)
  · exact back depth fuel rest (Nat.le_of_lt_succ enough) follows

theorem skipSpace_writtenItems {item : Value} (held : Holds limit item) (depth : Nat)
    (items : List Value) (rest : List Char) :
    skipSpace (writtenItems depth item items ++ rest) =
      written (depth + 1) item ++ (scalars (renderItems depth items) ++ rest) := by
  rw [writtenItems, List.append_assoc, List.append_assoc, skipSpace_newLine,
    skipSpace_written held]

theorem length_lt_of_writtenItems {item : Value} {items : List Value}
    (enough : (writtenItems depth item items).length < fuel) :
    ∃ less, fuel = less + 1 ∧ (written (depth + 1) item).length < less ∧
      (scalars (renderItems depth items)).length < less := by
  rw [writtenItems, scalars_newLine, List.length_append, List.length_append, List.length_cons]
    at enough
  exact ⟨fuel - 1, by omega, by omega, by omega⟩

/-- The items of a list are read from what is written of them up to its end. -/
theorem readItems_written {first : Value} {items : List Value}
    (held : ∀ item ∈ first :: items, Holds limit item)
    (back : ∀ item ∈ first :: items, ReadsBack limit item)
    (enough : (writtenItems depth first items).length < fuel) :
    readItems limit fuel (skipSpace (writtenItems depth first items ++ rest)) =
      some (first :: items, rest) := by
  induction items generalizing first fuel with
  | nil =>
    obtain ⟨fuel, rfl, short, -⟩ := length_lt_of_writtenItems enough
    rw [skipSpace_writtenItems (held first (by simp)), scalars_renderItems_nil, readItems,
      back first (by simp) (depth + 1) fuel _ short (.newLine depth _)]
    simp only [Option.bind_eq_bind, Option.bind_some, skipSpace_newLine]
    rfl
  | cons item items inductionHypothesis =>
    obtain ⟨fuel, rfl, short, shorter⟩ := length_lt_of_writtenItems enough
    rw [List.forall_mem_cons] at held back
    rw [scalars_renderItems_cons] at shorter
    rw [skipSpace_writtenItems held.1, scalars_renderItems_cons, readItems, List.cons_append,
      back.1 (depth + 1) fuel _ short (.comma _)]
    change (readItems limit fuel (skipSpace (writtenItems depth item items ++ rest))).bind _ = _
    rw [inductionHypothesis held.2 back.2 (Nat.lt_of_succ_lt shorter)]
    rfl

/-- One entry is read from what is written of it. What follows decides whether there are more. -/
theorem readEntries_entry (scalar : e.1.isScalar = true) (held : Holds limit e.2)
    (back : ReadsBack limit e.2) (enough : (writtenEntry depth e).length < fuel)
    (follows : MayFollow rest) :
    readEntries limit (fuel + 1) (writtenEntry depth e ++ rest) =
      match skipSpace rest with
      | '\x7d' :: rest => some ([(.str e.1, e.2)], rest)
      | ',' :: rest => do
        let (entries, rest) ← readEntries limit fuel (skipSpace rest)
        return ((.str e.1, e.2) :: entries, rest)
      | _ => none := by
  have value := back depth fuel rest (Nat.lt_trans (length_written_lt depth e) enough) follows
  obtain ⟨key, v⟩ := e
  obtain ⟨cs, rfl⟩ := Text.exists_ofChars scalar
  have colon (more : List Char) : skipSpace (':' :: more) = ':' :: more := rfl
  have blank : skipSpace (' ' :: (written depth v ++ rest)) = written depth v ++ rest :=
    skipSpace_written held depth rest
  rw [writtenEntry, List.cons_append, List.append_assoc, readEntries]
  simp only [List.cons_append, readString_writeString, Option.bind_eq_bind, Option.bind_some, colon,
    blank, value, joinSurrogates_ofChars]
  rfl

theorem skipSpace_writtenEntries (depth : Nat) (e : Text × Value) (entries : Table Value)
    (rest : List Char) :
    skipSpace (writtenEntries depth e entries ++ rest) =
      writtenEntry (depth + 1) e ++
        (scalars (renderEntries depth (Mapping.ofTable entries)) ++ rest) := by
  rw [writtenEntries, List.append_assoc, List.append_assoc, skipSpace_newLine]
  rfl

theorem length_lt_of_writtenEntries {entries : Table Value}
    (enough : (writtenEntries depth e entries).length < fuel) :
    ∃ less, fuel = less + 1 ∧ (writtenEntry (depth + 1) e).length < less ∧
      (scalars (renderEntries depth (Mapping.ofTable entries))).length < less := by
  rw [writtenEntries, scalars_newLine, List.length_append, List.length_append, List.length_cons]
    at enough
  exact ⟨fuel - 1, by omega, by omega, by omega⟩

/-- The entries of a mapping are read from what is written of them up to its end. -/
theorem readEntries_written {first : Text × Value} {entries : Table Value}
    (scalar : ∀ e ∈ first :: entries, e.1.isScalar = true)
    (held : ∀ e ∈ first :: entries, Holds limit e.2)
    (back : ∀ e ∈ first :: entries, ReadsBack limit e.2)
    (enough : (writtenEntries depth first entries).length < fuel) :
    readEntries limit fuel (skipSpace (writtenEntries depth first entries ++ rest)) =
      some (Mapping.ofTable (first :: entries), rest) := by
  induction entries generalizing first fuel with
  | nil =>
    obtain ⟨fuel, rfl, short, -⟩ := length_lt_of_writtenEntries enough
    rw [skipSpace_writtenEntries, scalars_renderEntries_nil,
      readEntries_entry (scalar first (by simp)) (held first (by simp)) (back first (by simp)) short
        (.newLine depth _), skipSpace_newLine]
    rfl
  | cons e entries inductionHypothesis =>
    obtain ⟨fuel, rfl, short, shorter⟩ := length_lt_of_writtenEntries enough
    rw [List.forall_mem_cons] at scalar held back
    rw [scalars_renderEntries_cons] at shorter
    rw [skipSpace_writtenEntries, scalars_renderEntries_cons, List.cons_append,
      readEntries_entry scalar.1 held.1 back.1 short (.comma _)]
    change (readEntries limit fuel (skipSpace (writtenEntries depth e entries ++ rest))).bind _ = _
    rw [inductionHypothesis scalar.2 held.2 back.2 (Nat.lt_of_succ_lt shorter)]
    rfl

/-! ## Values -/

theorem readValue_atom {c : Char} (noText : c ≠ '\x22') (noList : c ≠ '[') (noMap : c ≠ '\x7b')
    (limit : Option Nat) (fuel : Nat) (cs : List Char) :
    readValue limit (fuel + 1) (c :: cs) = readAtom limit (c :: cs) := by
  rw [readValue]
  · exact fun _ same => noText (List.cons.inj same).1
  · exact fun _ same => noList (List.cons.inj same).1
  · exact fun _ same => noMap (List.cons.inj same).1

theorem readValue_list {c : Char} {cs more : List Char} (other : c ≠ ']')
    (first : skipSpace cs = c :: more) (limit : Option Nat) (fuel : Nat) :
    readValue limit (fuel + 1) ('[' :: cs) =
      (readItems limit fuel (skipSpace cs)).map fun p => (.list p.1, p.2) := by
  rw [readValue, first]
  split
  next same => exact absurd (List.cons.inj same).1 other
  next => cases readItems limit fuel (c :: more) <;> rfl

theorem readValue_map {c : Char} {cs more : List Char} (other : c ≠ '\x7d')
    (first : skipSpace cs = c :: more) (limit : Option Nat) (fuel : Nat) :
    readValue limit (fuel + 1) ('\x7b' :: cs) =
      (readEntries limit fuel (skipSpace cs)).map fun p => (.map (Mapping.ofList p.1), p.2) := by
  rw [readValue, first]
  split
  next same => exact absurd (List.cons.inj same).1 other
  next => cases readEntries limit fuel (c :: more) <;> rfl

theorem ReadsBack.int {i : Int} (fits : Fits limit i) : ReadsBack limit (.int i) := by
  refine .of_succ fun depth fuel rest _ follows => ?_
  obtain ⟨c, cs, spelt, other⟩ := exists_numeral_cons i
  rw [written_int, ← readAtom_numeral fits follows.endsNumber, spelt]
  exact readValue_atom (other _ (by decide) rfl) (other _ (by decide) rfl)
    (other _ (by decide) rfl) limit fuel _

theorem ReadsBack.str {t : Text} (scalar : t.isScalar = true) : ReadsBack limit (.str t) := by
  refine .of_succ fun depth fuel rest _ _ => ?_
  obtain ⟨cs, rfl⟩ := Text.exists_ofChars scalar
  rw [written_str, List.cons_append, List.append_assoc, readValue]
  simp only [List.singleton_append, readString_writeString, Option.bind_eq_bind, Option.bind_some,
    joinSurrogates_ofChars]
  rfl

theorem ReadsBack.list {items : List Value} (held : ∀ item ∈ items, Holds limit item)
    (back : ∀ item ∈ items, ReadsBack limit item) : ReadsBack limit (.list items) := by
  refine .of_succ fun depth fuel rest enough _ => ?_
  cases items with
  | nil => rfl
  | cons item items =>
    obtain ⟨c, cs, same, -, other⟩ := exists_written_cons (held item (by simp)) (depth + 1)
    have first := skipSpace_writtenItems (held item (by simp)) depth items rest
    rw [same, List.cons_append] at first
    rw [written_list] at enough
    rw [written_list, List.cons_append, readValue_list other first,
      readItems_written held back (Nat.lt_of_succ_le enough)]
    rfl

theorem ReadsBack.map {entries : Table Value} (distinct : entries.keys.Nodup)
    (scalar : ∀ e ∈ entries, e.1.isScalar = true) (held : ∀ e ∈ entries, Holds limit e.2)
    (back : ∀ e ∈ entries, ReadsBack limit e.2) : ReadsBack limit (.map (Mapping.ofTable entries)) := by
  refine .of_succ fun depth fuel rest enough _ => ?_
  cases entries with
  | nil => rfl
  | cons e entries =>
    have first := skipSpace_writtenEntries depth e entries rest
    rw [writtenEntry, List.cons_append] at first
    rw [written_map] at enough
    rw [written_map, List.cons_append, readValue_map (by decide) first,
      readEntries_written scalar held back (Nat.lt_of_succ_le enough), Option.map_some,
      Mapping.ofList_ofTable distinct]

/-- What is written of a value is read as the value. -/
theorem Holds.readsBack (held : Holds limit v) : ReadsBack limit v := by
  induction held with
  | null => exact .of_succ fun _ _ _ _ _ => rfl
  | bool b => exact .of_succ fun _ _ _ _ _ => by cases b <;> rfl
  | int fits => exact .int fits
  | str scalar => exact .str scalar
  | list held inductionHypothesis => exact .list held inductionHypothesis
  | map distinct scalar held inductionHypothesis =>
    exact .map distinct scalar held inductionHypothesis

/-- What is written of a value spells it and nothing else. -/
theorem Holds.parseWithin?_written (held : Holds limit v) (depth : Nat) :
    parseWithin? limit (written depth v) = some v := by
  have token := skipSpace_written held depth []
  have read := held.readsBack depth _ [] (Nat.lt_succ_self _) .nil
  rw [List.append_nil] at token read
  rw [parseWithin?, token, read]
  rfl

/-! ## Texts without lone surrogates -/

theorem Holds.isEncodable (held : Holds limit v) : v.isEncodable = true := by
  induction held with
  | null | bool _ | int _ => rfl
  | str scalar => exact scalar
  | list _ inductionHypothesis =>
    rw [Value.isEncodable, Value.areEncodable_eq, List.all_eq_true]
    exact inductionHypothesis
  | map _ scalar _ inductionHypothesis =>
    rw [Value.isEncodable, Value.areEncodableEntries_eq, Mapping.ofTable, List.all_map,
      List.all_eq_true]
    intro e listed
    rw [Function.comp_apply, Bool.and_eq_true]
    exact ⟨scalar e listed, inductionHypothesis e listed⟩

/-- What is written of a value has an encoding as bytes. -/
theorem Holds.isScalar_render (held : Holds limit v) (depth : Nat) :
    (render depth v).isScalar = true :=
  (Json.isScalar_render depth v).trans held.isEncodable

end Json

end ImportPolicy
