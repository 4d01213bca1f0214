import ImportPolicy.Proofs.Policy.Entries
import ImportPolicy.Proofs.Traversals

/-! # The last entry wins

An option list is read from front to back, and a policy says of everything what the last entry to
speak of it says. Words speak of what no entry lists, so it does not matter where among the other
entries they stand.

* `lastSet` — what the last entry that sets something sets.
* `foldl_apply` — a policy after some entries.
* `normalize_lastWins` — the policy of an option list. -/

namespace ImportPolicy.Policy

variable {α : Type} {entries following : List Entry}

/-- What the last of some entries sets that sets anything. -/
def lastSet (sets : Entry → Option α) (entries : List Entry) : Option α :=
  entries.reverse.findSome? sets

variable {sets : Entry → Option α}

@[simp] theorem lastSet_nil : lastSet sets [] = none := rfl

theorem lastSet_cons (e : Entry) (entries : List Entry) :
    lastSet sets (e :: entries) = (lastSet sets entries).or (sets e) := by
  rw [lastSet, List.reverse_cons, List.findSome?_append, lastSet, List.findSome?_cons]
  cases sets e <;> rfl

/-- Entries that set nothing do not matter. -/
theorem lastSet_filter {keep : Entry → Bool} (silent : ∀ e, keep e = false → sets e = none)
    (entries : List Entry) : lastSet sets (entries.filter keep) = lastSet sets entries := by
  induction entries with
  | nil => rfl
  | cons e entries inductionHypothesis =>
    rw [List.filter_cons]
    split
    · rw [lastSet_cons, lastSet_cons, inductionHypothesis]
    next dropped => rw [lastSet_cons, inductionHypothesis, silent e (by simpa using dropped), Option.or_none]

theorem flatMap_table_filter {keep : Entry → Bool} (silent : ∀ e, keep e = false → e.table = [])
    (entries : List Entry) :
    (entries.filter keep).flatMap Entry.table = entries.flatMap Entry.table := by
  induction entries with
  | nil => rfl
  | cons e entries inductionHypothesis =>
    rw [List.filter_cons]
    split
    · rw [List.flatMap_cons, List.flatMap_cons, inductionHypothesis]
    next dropped => rw [inductionHypothesis, List.flatMap_cons, silent e (by simpa using dropped), List.nil_append]

/-! ## One entry, and some -/

/-- A policy with what some entries set in place of what it said: field by field, and extension by
    extension. -/
def overridden (p : Policy) (entries : List Entry) : Policy where
  fallback := (lastSet Entry.word? entries).getD p.fallback
  pattern := p.pattern.update (ofEntries entries).pattern
  ignorePackages := (lastSet Entry.ignorePackages? entries).getD p.ignorePackages
  commonjs := (lastSet Entry.commonjs? entries).getD p.commonjs

/-- What an entry changes. -/
theorem apply_eq (p : Policy) (e : Entry) : p.apply e =
    { fallback := e.word?.getD p.fallback
      pattern := p.pattern.update e.table
      ignorePackages := e.ignorePackages?.getD p.ignorePackages
      commonjs := e.commonjs?.getD p.commonjs } := by
  cases e <;> rfl

/-- What some entries change. -/
theorem foldl_apply (p : Policy) (entries : List Entry) : entries.foldl apply p =
    { fallback := (lastSet Entry.word? entries).getD p.fallback
      pattern := p.pattern.update (entries.flatMap Entry.table)
      ignorePackages := (lastSet Entry.ignorePackages? entries).getD p.ignorePackages
      commonjs := (lastSet Entry.commonjs? entries).getD p.commonjs } := by
  induction entries generalizing p with
  | nil => rfl
  | cons e entries inductionHypothesis =>
    rw [List.foldl_cons, inductionHypothesis, apply_eq, List.flatMap_cons, Table.update_append]
    simp only [lastSet_cons, Option.getD_or]

theorem pattern_ofEntries (entries : List Entry) :
    (ofEntries entries).pattern = Table.update [] (entries.flatMap Entry.table) := by
  rw [ofEntries, foldl_apply]

theorem foldl_apply_eq_overridden (p : Policy) (entries : List Entry) :
    entries.foldl apply p = p.overridden entries := by
  rw [foldl_apply, overridden, pattern_ofEntries, Table.update_update Table.nodup_keys_nil]
  rfl

/-! ## What the last entries say -/

/-- A policy that says of everything what the last entry to speak of it says. A word speaks of the
    extensions that no entry lists. -/
structure FollowsLast (entries : List Entry) (p : Policy) : Prop where
  modifierFor (extension : Text) : p.modifierFor extension =
    ((lastSet (Entry.modifier? extension) entries).or (lastSet Entry.word? entries)).getD .never
  ignorePackages : p.ignorePackages = (lastSet Entry.ignorePackages? entries).getD false
  commonjs : p.commonjs = (lastSet Entry.commonjs? entries).getD false

theorem find?_flatMap_table (once : ∀ e ∈ entries, e.table.keys.Nodup) (extension : Text) :
    Table.find? (entries.flatMap Entry.table).reverse extension =
      lastSet (Entry.modifier? extension) entries := by
  induction entries with
  | nil => rfl
  | cons e entries inductionHypothesis =>
    rw [List.forall_mem_cons] at once
    rw [List.flatMap_cons, List.reverse_append, Table.find?_append, inductionHypothesis once.2,
      Table.find?_reverse once.1, lastSet_cons]
    rfl

theorem followsLast_ofEntries (once : ∀ e ∈ entries, e.table.keys.Nodup) :
    FollowsLast entries (ofEntries entries) where
  modifierFor extension := by
    rw [ofEntries, foldl_apply, Policy.modifierFor, Table.find?_update, find?_flatMap_table once,
      Option.getD_or, Option.getD_or]
    rfl
  ignorePackages := by rw [ofEntries, foldl_apply]
  commonjs := by rw [ofEntries, foldl_apply]

/-! ## Where words stand -/

/-- Two lists with the same texts in the same order and the same other values in the same order,
    however these are mixed. -/
structure SameApart (values moved : List Value) : Prop where
  texts : moved.filter (·.text?.isSome) = values.filter (·.text?.isSome)
  others : moved.filter (!·.text?.isSome) = values.filter (!·.text?.isSome)

theorem SameApart.mem {values moved : List Value} (same : SameApart values moved) {v : Value}
    (member : v ∈ moved) : v ∈ values := by
  cases isText : v.text?.isSome with
  | true =>
    have kept : v ∈ moved.filter (·.text?.isSome) := List.mem_filter.2 ⟨member, isText⟩
    rw [same.texts] at kept
    exact (List.mem_filter.1 kept).1
  | false =>
    have kept : v ∈ moved.filter (!·.text?.isSome) :=
      List.mem_filter.2 ⟨member, by rw [isText]; rfl⟩
    rw [same.others] at kept
    exact (List.mem_filter.1 kept).1

/-- The policy of some entries depends on the words in their order and on the other entries in their
    order. -/
theorem ofEntries_congr {others : List Entry}
    (words : others.filter (·.word?.isSome) = entries.filter (·.word?.isSome))
    (rest : others.filter (!·.word?.isSome) = entries.filter (!·.word?.isSome)) :
    ofEntries others = ofEntries entries := by
  have word (e : Entry) (notWord : e.word?.isSome = false) : e.word? = none := by simpa using notWord
  have notWord (e : Entry) (isWord : (!e.word?.isSome) = false) :
      e.table = [] ∧ e.ignorePackages? = none ∧ e.commonjs? = none := by
    cases e with
    | word m => exact ⟨rfl, rfl, rfl⟩
    | flat _ | structured _ => cases isWord
  have packages (e isWord) := (notWord e isWord).2.1
  have requires (e isWord) := (notWord e isWord).2.2
  rw [ofEntries, ofEntries, foldl_apply, foldl_apply, ← lastSet_filter word others, words,
    lastSet_filter word, ← lastSet_filter packages others, ← lastSet_filter requires others,
    ← flatMap_table_filter (fun e isWord => (notWord e isWord).1) others, rest,
    lastSet_filter packages, lastSet_filter requires,
    flatMap_table_filter fun e isWord => (notWord e isWord).1]

theorem readEntries_moved {values moved : List Value} (accepted : readEntries values = .ok entries)
    (same : SameApart values moved) :
    ∃ others, readEntries moved = .ok others ∧ ofEntries others = ofEntries entries := by
  have readable := mapM_answers_iff.1 ⟨entries, accepted⟩
  obtain ⟨others, read⟩ := mapM_answers_iff.2 fun v member => readable v (same.mem member)
  have isWord (v e) (h : Entry.read v = .ok e) : e.word?.isSome = v.text?.isSome :=
    (Entry.isSome_text?_of_read h).symm
  have notWord (v e) (h : Entry.read v = .ok e) : (!e.word?.isSome) = !v.text?.isSome :=
    congrArg not (isWord v e h)
  refine ⟨others, read, ofEntries_congr ?_ ?_⟩
  · exact Except.ok.inj ((mapM_filter read isWord).symm.trans
      (same.texts ▸ mapM_filter accepted isWord))
  · exact Except.ok.inj ((mapM_filter read notWord).symm.trans
      (same.others ▸ mapM_filter accepted notWord))

/-! ## Option lists -/

theorem normalize_eq_ok_iff {values : List Value} {p : Policy} :
    normalize values = .ok p ↔ ∃ entries, readEntries values = .ok entries ∧ ofEntries entries = p := by
  rw [normalize_eq]
  constructor
  · exact map_eq_ok
  · rintro ⟨entries, read, rfl⟩
    rw [read]
    rfl

theorem normalize_append {values more : List Value} {p : Policy} (normal : normalize values = .ok p)
    (read : readEntries more = .ok following) :
    normalize (values ++ more) = .ok (following.foldl apply p) := by
  obtain ⟨entries, accepted, rfl⟩ := normalize_eq_ok_iff.1 normal
  exact normalize_eq_ok_iff.2
    ⟨entries ++ following, mapM_append_eq_ok accepted read, ofEntries_append entries following⟩

/-- The policy of values that can be read says of everything what the last of them to speak of it
    says. Texts may stand anywhere among the others, and more values override what the first ones
    set. -/
theorem normalize_lastWins {values : List Value} (accepted : readEntries values = .ok entries) :
    ∃ p, normalize values = .ok p ∧ FollowsLast entries p ∧
      (∀ moved, SameApart values moved → normalize moved = .ok p) ∧
      ∀ more following, readEntries more = .ok following →
        normalize (values ++ more) = .ok (p.overridden following) := by
  have normal : normalize values = .ok (ofEntries entries) :=
    normalize_eq_ok_iff.2 ⟨entries, accepted, rfl⟩
  refine ⟨ofEntries entries, normal, ?_, ?_, ?_⟩
  · exact followsLast_ofEntries (forall_mem_of_mapM accepted fun _ _ => Entry.nodup_table)
  · intro moved same
    exact normalize_eq_ok_iff.2 (readEntries_moved accepted same)
  · intro more following read
    rw [normalize_append normal read, foldl_apply_eq_overridden]

/-- Two tables with a word between them, which no validated list has. -/
def wordBetween : List Value :=
  [.map [("js", "never"), ("ts", "never")], "always",
   .map [("pattern", .map [("js", "ignorePackages")]), ("commonjs", .bool true)]]

/-- The entries of these options. -/
def wordBetweenEntries : List Entry :=
  [.flat [("js", .never), ("ts", .never)], .word .always,
   .structured ⟨some [("js", .ignorePackages)], none, some true⟩]

theorem normalize_lastWins_wordBetween :
    readEntries wordBetween = .ok wordBetweenEntries ∧
    ∃ p, normalize wordBetween = .ok p ∧
      p.modifierFor "js" = .ignorePackages ∧ p.modifierFor "ts" = .never ∧
      p.modifierFor "css" = .always ∧ p.ignorePackages = false ∧ p.commonjs = true ∧
      normalize (wordBetween ++ [.map [("commonjs", .bool false)]]) =
        .ok { p with commonjs := false } := by
  have accepted : readEntries wordBetween = .ok wordBetweenEntries := rfl
  obtain ⟨p, normal, follows, -, appended⟩ := normalize_lastWins accepted
  refine ⟨accepted, p, normal, ?_, ?_, ?_, ?_, ?_, ?_⟩
  · rw [follows.modifierFor]; decide
  · rw [follows.modifierFor]; decide
  · rw [follows.modifierFor]; decide
  · rw [follows.ignorePackages]; decide
  · rw [follows.commonjs]; decide
  · exact appended _ [.structured ⟨none, none, some false⟩] rfl

end ImportPolicy.Policy
