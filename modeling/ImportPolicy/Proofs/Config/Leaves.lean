import ImportPolicy.Proofs.Config.Layering

/-! # Leaves of layers

A mapping in which mappings are nested is a tree, and its leaves are the values that are no mappings.
What a mapping over another one says is said here leaf by leaf: the leaves of the upper one stand, and
those of the lower one stand where nothing of the upper one is in their way.

* `Value.at?`, `Mapping.HasLeaf` — what is held at a path of keys.
* `Mapping.areDistinct` — mappings of which every key occurs once, at any depth.
* `Config.find?_layer`, `Config.keys_layer`, `Config.at?_layer` — one level of a layer, and the levels
  that are layers in turn.
* `Config.hasLeaf_layer`, `Config.leaves_layer` — the leaves of a mapping over another one, and the
  order of its keys. -/

namespace ImportPolicy

/-! ## Paths of keys -/

/-- What a value holds at a path of keys. -/
def Value.at? (v : Value) : List Text → Option Value
  | [] => some v
  | key :: path => do (← (← v.mapping?).find? key).at? path

namespace Mapping

/-- A mapping holds a value that is no mapping at a path of keys. -/
def HasLeaf (entries : Mapping) (path : List Text) (v : Value) : Prop :=
  (Value.map entries).at? path = some v ∧ v.mapping? = none

/-- The keys of a mapping in order. -/
def keys (entries : Mapping) : List Value := entries.map (·.1)

end Mapping

mutual

/-- Whether a value is no mapping, or one of which every key occurs once, at any depth. -/
def Value.isDistinct : Value → Bool
  | .map entries => Mapping.areDistinct entries
  | _ => true

/-- Whether every key of a mapping occurs once, also in the mappings that it holds. -/
def Mapping.areDistinct : Mapping → Bool
  | [] => true
  | (key, value) :: rest =>
    rest.all (fun e => !key.sameKey e.1) && value.isDistinct && Mapping.areDistinct rest

end

variable {entries base upper inner lower : Mapping} {key : Text} {path : List Text} {v w : Value}

namespace Mapping

theorem areDistinct_cons {key value : Value} {rest : Mapping} :
    areDistinct ((key, value) :: rest) = true ↔
      (∀ other ∈ rest.keys, key.sameKey other = false) ∧ value.isDistinct = true ∧
        rest.areDistinct = true := by
  simp [areDistinct, keys, and_assoc]

theorem find?_eq_none_of_distinct
    (once : ∀ other ∈ entries.keys, Value.sameKey (.str key) other = false) :
    entries.find? key = none := by
  induction entries with
  | nil => rfl
  | cons entry rest inductionHypothesis =>
    obtain ⟨listed, held⟩ := entry
    rw [keys, List.map_cons, List.forall_mem_cons] at once
    rw [find?_cons, inductionHypothesis once.2, if_neg]
    rw [Value.sameKey_str_iff, ← Value.str_sameKey_iff]
    simp [once.1]

theorem isDistinct_of_find? (distinct : entries.areDistinct = true)
    (found : entries.find? key = some v) : v.isDistinct = true := by
  induction entries with
  | nil => cases found
  | cons entry rest inductionHypothesis =>
    obtain ⟨listed, held⟩ := entry
    obtain ⟨-, here, later⟩ := areDistinct_cons.1 distinct
    rw [find?_cons] at found
    split at found
    · exact Option.some.inj found ▸ here
    · exact inductionHypothesis later found

theorem isDistinct_of_at? (distinct : w.isDistinct = true) (held : w.at? path = some v) :
    v.isDistinct = true := by
  induction path generalizing w with
  | nil => exact Option.some.inj held ▸ distinct
  | cons key path inductionHypothesis =>
    cases w with
    | map entries =>
      obtain ⟨next, found, held⟩ := Option.bind_eq_some_iff.1 held
      exact inductionHypothesis (isDistinct_of_find? distinct found) held
    | _ => cases held

/-! ## Keys in order -/

theorem isSome_get? (entries : Mapping) (key : Value) :
    (entries.get? key).isSome = entries.keys.any (·.sameKey key) := by
  rw [get?, Option.isSome_map, keys, List.any_map, Bool.eq_iff_iff, List.find?_isSome,
    List.any_eq_true]
  rfl

theorem keys_put (entries : Mapping) (key value : Value) : (entries.put key value).keys =
    if (entries.get? key).isSome then entries.keys else entries.keys ++ [key] := by
  induction entries with
  | nil => rfl
  | cons entry rest inductionHypothesis =>
    obtain ⟨listed, held⟩ := entry
    rw [put, get?, List.find?_cons]
    cases same : listed.sameKey key with
    | true => rfl
    | false =>
      rw [if_neg (by simp)]
      change listed :: (put rest key value).keys = _
      rw [inductionHypothesis]
      change _ = if (get? rest key).isSome then _ else _
      split <;> rfl

/-! ## Leaves level by level -/

theorem not_hasLeaf_nil : ¬ entries.HasLeaf [] v := by
  rintro ⟨held, noMapping⟩
  cases held
  cases noMapping

theorem at?_cons (entries : Mapping) (key : Text) (path : List Text) :
    (Value.map entries).at? (key :: path) = (entries.find? key).bind (·.at? path) := rfl

theorem at?_of_noMapping (noMapping : w.mapping? = none) :
    w.at? path = if path = [] then some w else none := by
  cases path with
  | nil => rfl
  | cons key path => simp [Value.at?, noMapping]

theorem exists_mapping_of_at? (held : w.at? path = some (.map inner)) :
    ∃ entries, w = .map entries := by
  cases w with
  | map entries => exact ⟨entries, rfl⟩
  | _ =>
    rw [at?_of_noMapping rfl] at held
    split at held <;> cases held

theorem not_hasLeaf_of_missing (missing : entries.find? key = none) :
    ¬ entries.HasLeaf (key :: path) v := by
  rintro ⟨held, -⟩
  rw [at?_cons, missing] at held
  cases held

/-- Below a mapping the leaves are those of the mapping. -/
theorem hasLeaf_of_mapping (found : entries.find? key = some (.map inner)) :
    entries.HasLeaf (key :: path) v ↔ inner.HasLeaf path v := by
  rw [HasLeaf, at?_cons, found]
  rfl

/-- A value that is no mapping is the only leaf at its key. -/
theorem hasLeaf_of_noMapping (found : entries.find? key = some w) (noMapping : w.mapping? = none) :
    entries.HasLeaf (key :: path) v ↔ path = [] ∧ v = w := by
  rw [HasLeaf, at?_cons, found, Option.bind_some, at?_of_noMapping noMapping]
  constructor
  · rintro ⟨held, -⟩
    split at held
    next ends => exact ⟨ends, (Option.some.inj held).symm⟩
    next => cases held
  · rintro ⟨rfl, rfl⟩
    exact ⟨rfl, noMapping⟩

end Mapping

/-! ## One level -/

namespace Config

theorem layerValue_of_noMapping (below : Option Value) (noMapping : v.mapping? = none) :
    layerValue below v = v := by
  cases v with
  | map entries => cases noMapping
  | _ => simp [layerValue]

theorem layerValue_maps : layerValue (some (.map lower)) (.map inner) = .map (layer lower inner) := by
  simp [layerValue]

/-- A mapping where none lies below stays as it is. -/
theorem layerValue_of_noMapping_below {below : Option Value}
    (noMapping : ∀ w, below = some w → w.mapping? = none) :
    layerValue below (.map inner) = .map inner := by
  cases below with
  | none => simp [layerValue]
  | some w =>
    cases w with
    | map lower => cases noMapping _ rfl
    | _ => simp [layerValue]

/-- A key of the upper mapping holds what that puts over the lower one, and every other key what the
    lower one holds. -/
theorem find?_layer (distinct : upper.areDistinct = true) (base : Mapping) (key : Text) :
    (layer base upper).find? key =
      ((upper.find? key).map (layerValue (base.find? key))).or (base.find? key) := by
  induction upper generalizing base with
  | nil => rw [layer_nil]; rfl
  | cons entry rest inductionHypothesis =>
    obtain ⟨listed, value⟩ := entry
    obtain ⟨once, -, later⟩ := Mapping.areDistinct_cons.1 distinct
    rw [layer, inductionHypothesis later, Mapping.find?_put, Mapping.find?_cons]
    by_cases here : listed.sameKey (.str key) = true
    · obtain rfl := Value.sameKey_str_iff.1 here
      rw [Mapping.find?_eq_none_of_distinct once, if_pos here, if_pos here]
      rfl
    · rw [if_neg here, if_neg here]

/-- The keys of a mapping over another one are those of the lower one and, behind them, those that it
    lacks, each in their order. -/
theorem keys_layer (distinct : upper.areDistinct = true) (base : Mapping) :
    (layer base upper).keys = base.keys ++ upper.keys.filter fun key => (base.get? key).isNone := by
  induction upper generalizing base with
  | nil => rw [layer_nil]; exact (List.append_nil _).symm
  | cons entry rest inductionHypothesis =>
    obtain ⟨key, value⟩ := entry
    obtain ⟨once, -, later⟩ := Mapping.areDistinct_cons.1 distinct
    have others : ∀ other ∈ Mapping.keys rest,
        ((base.put key (layerValue (base.get? key) value)).get? other).isNone =
          (base.get? other).isNone := by
      intro other member
      rw [← Option.not_isSome, ← Option.not_isSome, Mapping.isSome_get?, Mapping.isSome_get?,
        Mapping.keys_put]
      split <;> simp [once other member]
    rw [layer, inductionHypothesis later, List.filter_congr others, Mapping.keys_put]
    change _ = base.keys ++ (key :: Mapping.keys rest).filter _
    cases there : base.get? key with
    | none => simp [there]
    | some held => simp [there]

/-! ## Levels that are layers -/

/-- Where both mappings hold a mapping, there the one lies over the other. -/
theorem at?_layer (distinct : upper.areDistinct = true)
    (below : (Value.map base).at? path = some (.map lower))
    (above : (Value.map upper).at? path = some (.map inner)) :
    (Value.map (layer base upper)).at? path = some (.map (layer lower inner)) := by
  induction path generalizing base upper with
  | nil =>
    cases below
    cases above
    rfl
  | cons key path inductionHypothesis =>
    rw [Mapping.at?_cons] at below above ⊢
    obtain ⟨v, foundBelow, below⟩ := Option.bind_eq_some_iff.1 below
    obtain ⟨w, foundAbove, above⟩ := Option.bind_eq_some_iff.1 above
    obtain ⟨nextBelow, rfl⟩ := Mapping.exists_mapping_of_at? below
    obtain ⟨nextAbove, rfl⟩ := Mapping.exists_mapping_of_at? above
    have nested := Mapping.isDistinct_of_find? distinct foundAbove
    rw [find?_layer distinct, foundBelow, foundAbove, Option.map_some, layerValue_maps]
    exact inductionHypothesis nested below above

/-! ## Leaves -/

/-- A mapping spares what lies below it at a path: it holds nothing there, and it has no leaf on the way
    there. -/
structure Spares (upper : Mapping) (path : List Text) : Prop where
  holdsNothing : (Value.map upper).at? path = none
  noLeafBefore : ∀ before, before ≠ [] → before <+: path → before ≠ path →
    ∀ w, ¬ upper.HasLeaf before w

theorem spares_of_missing (missing : upper.find? key = none) : Spares upper (key :: path) where
  holdsNothing := by rw [Mapping.at?_cons, missing]; rfl
  noLeafBefore before notEmpty start _ w := by
    cases before with
    | nil => exact absurd rfl notEmpty
    | cons first before =>
      obtain ⟨rfl, -⟩ := List.cons_prefix_cons.1 start
      exact Mapping.not_hasLeaf_of_missing missing

/-- A value that is no mapping is in the way of everything at its key and below. -/
theorem not_spares_of_noMapping (found : upper.find? key = some w) (noMapping : w.mapping? = none) :
    ¬ Spares upper (key :: path) := by
  intro spares
  have leaf : upper.HasLeaf [key] w := (Mapping.hasLeaf_of_noMapping found noMapping).2 ⟨rfl, rfl⟩
  cases path with
  | nil =>
    have nothing := spares.holdsNothing
    rw [leaf.1] at nothing
    cases nothing
  | cons next path =>
    exact spares.noLeafBefore [key] (List.cons_ne_nil _ _) ⟨next :: path, rfl⟩ (by simp) w leaf

theorem spares_of_mapping (found : upper.find? key = some (.map inner)) :
    Spares upper (key :: path) ↔ Spares inner path := by
  have below : (Value.map upper).at? (key :: path) = (Value.map inner).at? path := by
    rw [Mapping.at?_cons, found]
    rfl
  constructor
  · intro spares
    refine ⟨below ▸ spares.holdsNothing, fun before notEmpty start proper w leaf => ?_⟩
    exact spares.noLeafBefore (key :: before) (List.cons_ne_nil _ _)
      (List.cons_prefix_cons.2 ⟨rfl, start⟩) (fun same => proper (List.cons.inj same).2) w
      ((Mapping.hasLeaf_of_mapping found).2 leaf)
  · intro spares
    refine ⟨below ▸ spares.holdsNothing, fun before notEmpty start proper w leaf => ?_⟩
    cases before with
    | nil => exact notEmpty rfl
    | cons first rest =>
      obtain ⟨rfl, further⟩ := List.cons_prefix_cons.1 start
      rw [Mapping.hasLeaf_of_mapping found] at leaf
      refine spares.noLeafBefore rest ?_ further (fun same => proper (same ▸ rfl)) w leaf
      rintro rfl
      exact Mapping.not_hasLeaf_nil leaf

theorem hasLeaf_layer (distinct : upper.areDistinct = true) :
    (layer base upper).HasLeaf path v ↔
      upper.HasLeaf path v ∨ base.HasLeaf path v ∧ Spares upper path := by
  induction path generalizing base upper with
  | nil => simp [Mapping.not_hasLeaf_nil]
  | cons key path inductionHypothesis =>
    have found := find?_layer distinct base key
    cases above : upper.find? key with
    | none =>
      rw [above, Option.map_none, Option.none_or] at found
      rw [or_iff_right (Mapping.not_hasLeaf_of_missing above), and_iff_left (spares_of_missing above),
        Mapping.HasLeaf, Mapping.HasLeaf, Mapping.at?_cons, Mapping.at?_cons, found]
    | some w =>
      rw [above, Option.map_some, Option.some_or] at found
      cases w with
      | map inner =>
        rw [Mapping.hasLeaf_of_mapping above, spares_of_mapping above]
        by_cases nested : ∃ lower, base.find? key = some (.map lower)
        · obtain ⟨lower, below⟩ := nested
          rw [below, layerValue_maps] at found
          rw [Mapping.hasLeaf_of_mapping found, Mapping.hasLeaf_of_mapping below]
          exact inductionHypothesis (Mapping.isDistinct_of_find? distinct above)
        · have noMapping : ∀ held, base.find? key = some held → held.mapping? = none := by
            intro held below
            cases held with
            | map lower => exact absurd ⟨lower, below⟩ nested
            | _ => rfl
          rw [layerValue_of_noMapping_below noMapping] at found
          rw [Mapping.hasLeaf_of_mapping found, or_iff_left]
          -- A leaf of the lower mapping could only be at the key itself, where a mapping lies over it.
          rintro ⟨leaf, spares⟩
          cases below : base.find? key with
          | none => exact Mapping.not_hasLeaf_of_missing below leaf
          | some held =>
            obtain ⟨rfl, -⟩ := (Mapping.hasLeaf_of_noMapping below (noMapping held below)).1 leaf
            cases spares.holdsNothing
      | _ =>
        rw [layerValue_of_noMapping _ rfl] at found
        rw [Mapping.hasLeaf_of_noMapping found rfl, Mapping.hasLeaf_of_noMapping above rfl,
          or_iff_left fun kept => not_spares_of_noMapping above rfl kept.2]

/-- A mapping over another one has its own leaves and those of the lower one that it spares. Wherever
    both hold a mapping, the keys are those of the lower mapping and, behind them, the new ones of the
    upper mapping, each in their order. -/
theorem leaves_layer (base : Mapping) (distinct : upper.areDistinct = true) :
    (∀ path v, (layer base upper).HasLeaf path v ↔
      upper.HasLeaf path v ∨ base.HasLeaf path v ∧ Spares upper path) ∧
    ∀ (path : List Text) (lower inner : Mapping), (Value.map base).at? path = some (.map lower) →
      (Value.map upper).at? path = some (.map inner) →
      ∃ merged : Mapping, (Value.map (layer base upper)).at? path = some (.map merged) ∧
        merged.keys = lower.keys ++ inner.keys.filter fun key => (lower.get? key).isNone := by
  refine ⟨fun path v => hasLeaf_layer distinct, fun path lower inner below above => ?_⟩
  have nested : inner.areDistinct = true := Mapping.isDistinct_of_at? (w := .map upper) distinct above
  exact ⟨layer lower inner, at?_layer distinct below above, keys_layer nested lower⟩

/-- A mapping with a section of switches, one of them a list, and a section in place of a number. -/
def lowerSections : Mapping :=
  [("rules", .map [("severity", "error"), ("options", .list [.map [("js", "never")]])]),
   ("limits", .int 3), ("paths", .map [("root", "src")])]

/-- A mapping with new switches, a section where a number was, and a number where a section was. -/
def upperSections : Mapping :=
  [("paths", .null), ("rules", .map [("options", .list []), ("enabled", .bool false)]),
   ("limits", .map [])]

theorem leaves_layer_sections :
    Mapping.areDistinct upperSections = true ∧
    (layer lowerSections upperSections).HasLeaf ["rules", "severity"] "error" ∧
    (layer lowerSections upperSections).HasLeaf ["rules", "options"] (.list []) ∧
    (∀ v, ¬ (layer lowerSections upperSections).HasLeaf ["paths", "root"] v) ∧
    ∃ merged : Mapping,
      (Value.map (layer lowerSections upperSections)).at? ["rules"] = some (.map merged) ∧
        merged.keys = [.str "severity", .str "options", .str "enabled"] := by
  have distinct : Mapping.areDistinct upperSections = true := by decide
  obtain ⟨leaves, merges⟩ := leaves_layer lowerSections distinct
  refine ⟨distinct, ?_, ?_, ?_, ?_⟩
  · refine (leaves _ _).2 (.inr ⟨⟨rfl, rfl⟩, ?_⟩)
    exact (spares_of_mapping rfl).2 (spares_of_missing rfl)
  · exact (leaves _ _).2 (.inl ⟨rfl, rfl⟩)
  · intro v leaf
    rcases (leaves _ _).1 leaf with above | below
    · cases above.1
    · exact not_spares_of_noMapping rfl rfl below.2
  · exact merges ["rules"] _ _ rfl rfl

end Config

end ImportPolicy
