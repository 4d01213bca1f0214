import ImportPolicy.Proofs.Config.Leaves
import ImportPolicy.Proofs.Json.Data

/-! # Layers over layers

Three mappings that lie over each other give the same whether the lower two or the upper two are put
together first, and a mapping that is put on twice changes nothing the second time. The order of keys
is the same, too. One thing must not happen: that the mapping in the middle puts something else between
a mapping below it and one above it. If the lower two are put together first, then what lies below is
gone, and if the upper two are, then it comes back.

* `Mapping.isTextKeyed` — mappings with texts as keys, at any depth.
* `Mapping.eq_of_find?`, `Mapping.nested_induction` — when two mappings are equal, and induction over
  the mappings that one holds.
* `Config.names_layer`, `Config.isTextKeyed_layer` — the keys of layers.
* `Config.Interrupts`, `Config.layer_layer` — what may not lie between two mappings, and layers over
  layers where it does not.
* `Config.find?_layer_of_interrupts` — what such a mapping hides.
* `Config.layer_regroup` — layers that are regrouped and repeated. -/

namespace ImportPolicy

/-! ## Keys that are texts at any depth -/

mutual

/-- Whether a value is no mapping, or one whose keys are texts, each of which occurs once, at any
    depth. -/
def Value.isTextKeyed : Value → Bool
  | .map entries => Mapping.isTextKeyed entries
  | _ => true

/-- Whether the keys of a mapping are texts, each of which occurs once, also in the mappings that it
    holds. -/
def Mapping.isTextKeyed : Mapping → Bool
  | [] => true
  | (key, value) :: rest =>
    key.text?.isSome && rest.all (fun e => !key.sameKey e.1) && value.isTextKeyed &&
      Mapping.isTextKeyed rest

end

variable {entries others base upper lower inner a b c : Mapping} {key : Text} {v w : Value}

theorem Value.mapping?_eq_some_iff : v.mapping? = some inner ↔ v = .map inner := by
  cases v <;> simp [mapping?]

theorem Value.bind_mapping?_eq_some_iff {o : Option Value} :
    o.bind mapping? = some inner ↔ o = some (.map inner) := by
  simp [Option.bind_eq_some_iff, mapping?_eq_some_iff]

mutual

theorem Value.isDistinct_of_isTextKeyed : ∀ v : Value, v.isTextKeyed = true → v.isDistinct = true
  | .map entries, keyed => by
    rw [Value.isTextKeyed] at keyed
    rw [Value.isDistinct]
    exact Mapping.areDistinct_of_isTextKeyed entries keyed
  | .null, _ | .bool _, _ | .int _, _ | .float _, _ | .str _, _ | .list _, _ | .date _, _
  | .moment _, _ | .bytes _, _ | .set _, _ | .pair _ _, _ => by simp [Value.isDistinct]

theorem Mapping.areDistinct_of_isTextKeyed :
    ∀ entries : Mapping, entries.isTextKeyed = true → entries.areDistinct = true
  | [], _ => by simp [Mapping.areDistinct]
  | (key, value) :: rest, keyed => by
    simp only [Mapping.isTextKeyed, Bool.and_eq_true] at keyed
    obtain ⟨⟨⟨-, once⟩, here⟩, later⟩ := keyed
    simp only [Mapping.areDistinct, Bool.and_eq_true]
    exact ⟨⟨once, Value.isDistinct_of_isTextKeyed value here⟩,
      Mapping.areDistinct_of_isTextKeyed rest later⟩

end

namespace Mapping

/-- The keys of a mapping that are texts, in order. -/
def names (entries : Mapping) : List Text := entries.keys.filterMap Value.text?

theorem isTextKeyed_cons {key value : Value} {rest : Mapping} :
    isTextKeyed ((key, value) :: rest) = true ↔
      (∃ name, key = .str name ∧ name ∉ rest.names) ∧ value.isTextKeyed = true ∧
        rest.isTextKeyed = true := by
  have once (name : Text) : rest.all (fun e => !Value.sameKey (.str name) e.1) = true ↔
      name ∉ rest.names := by
    rw [names, List.mem_filterMap, List.all_eq_true]
    constructor
    · rintro different ⟨key, listed, same⟩
      obtain ⟨e, member, rfl⟩ := List.mem_map.1 listed
      have other := different e member
      rw [Value.text?_eq_some_iff] at same
      simp [same, Value.sameKey] at other
    · intro absent e member
      rw [Bool.not_eq_true', ← Bool.not_eq_true, Value.str_sameKey_iff]
      intro same
      exact absent ⟨e.1, List.mem_map_of_mem member, by rw [same]; rfl⟩
  simp only [isTextKeyed, Bool.and_eq_true]
  constructor
  · rintro ⟨⟨⟨text, different⟩, here⟩, later⟩
    obtain ⟨name, named⟩ := Option.isSome_iff_exists.1 text
    obtain rfl := Value.text?_eq_some_iff.1 named
    exact ⟨⟨name, rfl, (once name).1 different⟩, here, later⟩
  · rintro ⟨⟨name, rfl, new⟩, here, later⟩
    exact ⟨⟨⟨rfl, (once name).2 new⟩, here⟩, later⟩

theorem keys_eq_names (keyed : entries.isTextKeyed = true) : entries.keys = entries.names.map .str := by
  induction entries with
  | nil => rfl
  | cons entry rest inductionHypothesis =>
    obtain ⟨key, value⟩ := entry
    obtain ⟨⟨name, rfl, -⟩, -, later⟩ := isTextKeyed_cons.1 keyed
    exact congrArg (Value.str name :: ·) (inductionHypothesis later)

theorem nodup_names (keyed : entries.isTextKeyed = true) : entries.names.Nodup := by
  induction entries with
  | nil => exact List.nodup_nil
  | cons entry rest inductionHypothesis =>
    obtain ⟨key, value⟩ := entry
    obtain ⟨⟨name, rfl, new⟩, -, later⟩ := isTextKeyed_cons.1 keyed
    exact List.nodup_cons.2 ⟨new, inductionHypothesis later⟩

theorem isTextKeyed_of_find? (keyed : entries.isTextKeyed = true)
    (found : entries.find? key = some v) : v.isTextKeyed = true := by
  induction entries with
  | nil => cases found
  | cons entry rest inductionHypothesis =>
    obtain ⟨listed, held⟩ := entry
    obtain ⟨-, here, later⟩ := isTextKeyed_cons.1 keyed
    rw [find?_cons] at found
    split at found
    · exact Option.some.inj found ▸ here
    · exact inductionHypothesis later found

theorem find?_eq_none_iff : entries.find? key = none ↔ key ∉ entries.names := by
  rw [names, List.mem_filterMap, ← Option.not_isSome_iff_eq_none, find?, isSome_get?, List.any_eq_true]
  simp only [Value.text?_eq_some_iff, Value.sameKey_str_iff]

theorem find?_cons_str (name : Text) (value : Value) (rest : Mapping) (key : Text) :
    find? ((.str name, value) :: rest) key = if name = key then some value else rest.find? key := by
  rw [find?_cons]
  simp only [Value.sameKey_str_iff, Value.str.injEq]

/-- A mapping is told by its keys, and by what it holds at them. -/
theorem isTextKeyed_of_names (texts : entries.keys = entries.names.map .str)
    (nodup : entries.names.Nodup) (held : ∀ key v, entries.find? key = some v → v.isTextKeyed = true) :
    entries.isTextKeyed = true := by
  induction entries with
  | nil => simp [isTextKeyed]
  | cons entry rest inductionHypothesis =>
    obtain ⟨key, value⟩ := entry
    have first : key ∈ (names ((key, value) :: rest)).map Value.str :=
      texts ▸ List.mem_cons_self
    obtain ⟨name, -, rfl⟩ := List.mem_map.1 first
    have later : Mapping.keys rest = (names rest).map .str := (List.cons.inj texts).2
    obtain ⟨new, nodup⟩ := List.nodup_cons.1 nodup
    refine isTextKeyed_cons.2 ⟨⟨name, rfl, new⟩, ?_, ?_⟩
    · exact held name value (by rw [find?_cons_str, if_pos rfl])
    · refine inductionHypothesis later nodup fun key v found => held key v ?_
      have other : name ≠ key := by
        rintro rfl
        rw [find?_eq_none_iff.2 new] at found
        cases found
      rw [find?_cons_str, if_neg other, found]

/-- Two mappings are equal if they have the same keys and hold the same at them. -/
theorem eq_of_find? (keyed : entries.isTextKeyed = true) (otherKeyed : others.isTextKeyed = true)
    (sameNames : entries.names = others.names)
    (same : ∀ key, entries.find? key = others.find? key) : entries = others := by
  induction entries generalizing others with
  | nil =>
    have none : others.keys = [] := by rw [keys_eq_names otherKeyed, ← sameNames]; rfl
    exact (List.map_eq_nil_iff.1 none).symm
  | cons entry rest inductionHypothesis =>
    obtain ⟨key, value⟩ := entry
    obtain ⟨⟨name, rfl, new⟩, -, later⟩ := isTextKeyed_cons.1 keyed
    cases others with
    | nil => cases sameNames
    | cons other more =>
      obtain ⟨key, otherValue⟩ := other
      obtain ⟨⟨otherName, rfl, otherNew⟩, -, otherLater⟩ := isTextKeyed_cons.1 otherKeyed
      have keys : name :: names rest = otherName :: names more := sameNames
      obtain ⟨rfl, laterNames⟩ := List.cons.inj keys
      simp only [find?_cons_str] at same
      have here : value = otherValue := by simpa using same name
      rw [here, inductionHypothesis later otherLater laterNames]
      intro key
      by_cases first : name = key
      · subst first
        rw [find?_eq_none_iff.2 new, find?_eq_none_iff.2 otherNew]
      · simpa [first] using same key

/-! ## Mappings that a mapping holds -/

theorem isTextKeyed_of_found (keyed : entries.isTextKeyed = true)
    (found : entries.find? key = some (.map inner)) : inner.isTextKeyed = true := by
  simpa [Value.isTextKeyed] using isTextKeyed_of_find? keyed found

theorem sizeOf_of_find? (found : entries.find? key = some (.map inner)) :
    sizeOf inner < sizeOf entries := by
  induction entries with
  | nil => cases found
  | cons entry rest inductionHypothesis =>
    obtain ⟨listed, held⟩ := entry
    rw [find?_cons] at found
    split at found
    · obtain rfl := Option.some.inj found
      simp only [List.cons.sizeOf_spec, Prod.mk.sizeOf_spec, Value.map.sizeOf_spec]
      omega
    · have := inductionHypothesis found
      simp only [List.cons.sizeOf_spec]
      omega

/-- What holds of a mapping if it holds of the mappings at its keys holds of every mapping. -/
@[elab_as_elim]
theorem nested_induction {motive : Mapping → Prop}
    (step : ∀ entries : Mapping,
      (∀ key inner, entries.find? key = some (.map inner) → motive inner) → motive entries)
    (entries : Mapping) : motive entries :=
  step entries fun _ inner _ => nested_induction step inner
termination_by sizeOf entries
decreasing_by exact sizeOf_of_find? ‹_›

end Mapping

namespace Config

/-! ## Keys of layers -/

/-- A mapping is put on the one below it, if there is one. -/
theorem layerValue_map (below : Option Value) (inner : Mapping) :
    layerValue below (.map inner) =
      .map ((below.bind Value.mapping?).elim inner fun lower => layer lower inner) := by
  cases below with
  | none => exact layerValue_of_noMapping_below nofun
  | some v =>
    cases v with
    | map lower => exact layerValue_maps
    | _ => exact layerValue_of_noMapping_below fun w held => Option.some.inj held ▸ rfl

theorem names_layer (keyed : upper.isTextKeyed = true) (base : Mapping) :
    (layer base upper).names =
      base.names ++ upper.names.filter fun key => (base.find? key).isNone := by
  rw [Mapping.names, keys_layer (Mapping.areDistinct_of_isTextKeyed _ keyed), List.filterMap_append,
    Mapping.keys_eq_names keyed, List.filter_map, List.filterMap_map]
  exact congrArg _ List.filterMap_some

theorem isTextKeyed_layer (keyed : base.isTextKeyed = true) (upperKeyed : upper.isTextKeyed = true) :
    (layer base upper).isTextKeyed = true := by
  induction upper using Mapping.nested_induction generalizing base with
  | step upper nested =>
  have distinct := Mapping.areDistinct_of_isTextKeyed _ upperKeyed
  refine Mapping.isTextKeyed_of_names ?_ ?_ fun key v found => ?_
  · rw [keys_layer distinct, names_layer upperKeyed, List.map_append, Mapping.keys_eq_names keyed,
      Mapping.keys_eq_names upperKeyed, List.filter_map]
    rfl
  · rw [names_layer upperKeyed, List.nodup_append]
    refine ⟨Mapping.nodup_names keyed, (Mapping.nodup_names upperKeyed).filter _, ?_⟩
    rintro name listed _ new rfl
    have absent := (List.mem_filter.1 new).2
    rw [Option.isNone_iff_eq_none, Mapping.find?_eq_none_iff] at absent
    exact absent listed
  · rw [find?_layer distinct] at found
    cases above : upper.find? key with
    | none =>
      rw [above] at found
      exact Mapping.isTextKeyed_of_find? keyed found
    | some w =>
      rw [above] at found
      obtain rfl : layerValue (base.find? key) w = v := Option.some.inj found
      have own := Mapping.isTextKeyed_of_find? upperKeyed above
      cases isMapping : w.mapping? with
      | none => rwa [layerValue_of_noMapping _ isMapping]
      | some inner =>
        obtain rfl := Value.mapping?_eq_some_iff.1 isMapping
        rw [layerValue_map, Value.isTextKeyed]
        rw [Value.isTextKeyed] at own
        cases below : (base.find? key).bind Value.mapping? with
        | none => exact own
        | some lower =>
          have below := Value.bind_mapping?_eq_some_iff.1 below
          exact nested key inner above (Mapping.isTextKeyed_of_found keyed below) own

/-! ## Layers that are regrouped -/

/-- Something lies between two mappings: at a path both of them hold a mapping, and the one that comes
    between them holds something else. -/
def Interrupts (between lower upper : Mapping) : Prop :=
  ∃ path v, (Value.map between).at? path = some v ∧ v.mapping? = none ∧
    (∃ inner, (Value.map lower).at? path = some (.map inner)) ∧
    ∃ outer, (Value.map upper).at? path = some (.map outer)

/-- What lies between two mappings is found at a key at which both of them hold mappings: either there or
    between those. -/
theorem interrupts_iff : Interrupts b a c ↔ ∃ key x z,
    a.find? key = some (.map x) ∧ c.find? key = some (.map z) ∧
      ((∃ v, b.find? key = some v ∧ v.mapping? = none) ∨
        ∃ y, b.find? key = some (.map y) ∧ Interrupts y x z) := by
  constructor
  · rintro ⟨path, v, between, noMapping, ⟨inner, below⟩, outer, above⟩
    cases path with
    | nil =>
      cases between
      cases noMapping
    | cons key path =>
      rw [Mapping.at?_cons, Option.bind_eq_some_iff] at below between above
      obtain ⟨lower, foundBelow, below⟩ := below
      obtain ⟨held, foundBetween, between⟩ := between
      obtain ⟨upper, foundAbove, above⟩ := above
      obtain ⟨x, rfl⟩ := Mapping.exists_mapping_of_at? below
      obtain ⟨z, rfl⟩ := Mapping.exists_mapping_of_at? above
      refine ⟨key, x, z, foundBelow, foundAbove, ?_⟩
      cases isMapping : held.mapping? with
      | none => exact .inl ⟨held, foundBetween, isMapping⟩
      | some y =>
        obtain rfl := Value.mapping?_eq_some_iff.1 isMapping
        exact .inr ⟨y, foundBetween, path, v, between, noMapping, ⟨inner, below⟩, outer, above⟩
  · rintro ⟨key, x, z, foundBelow, foundAbove, ⟨v, foundBetween, noMapping⟩ | ⟨y, foundBetween,
      path, v, between, noMapping, ⟨inner, below⟩, outer, above⟩⟩
    · refine ⟨[key], v, ?_, noMapping, ⟨x, ?_⟩, z, ?_⟩ <;>
        simp only [Mapping.at?_cons, foundBelow, foundBetween, foundAbove] <;> rfl
    · refine ⟨key :: path, v, ?_, noMapping, ⟨inner, ?_⟩, outer, ?_⟩ <;>
        simpa only [Mapping.at?_cons, foundBelow, foundBetween, foundAbove]

/-- What three mappings hold at a key, regrouped. Where all of them hold mappings there, these have to
    be regrouped themselves. -/
theorem layerValue_layerValue {below between : Option Value}
    (free : ∀ x v z, below = some (.map x) → between = some v → w = .map z → v.mapping? ≠ none)
    (nested : ∀ x y z, below = some (.map x) → between = some (.map y) → w = .map z →
      layer (layer x y) z = layer x (layer y z)) :
    layerValue ((between.map (layerValue below)).or below) w =
      layerValue below (layerValue between w) := by
  cases isMapping : w.mapping? with
  | none => simp only [layerValue_of_noMapping _ isMapping]
  | some z =>
    obtain rfl := Value.mapping?_eq_some_iff.1 isMapping
    cases between with
    | none => rw [layerValue_map none]; rfl
    | some v =>
      cases between : v.mapping? with
      | none =>
        rw [Option.map_some, Option.some_or, layerValue_of_noMapping below between, layerValue_map,
          Option.bind_some, between, Option.elim_none, layerValue_map]
        cases lower : below.bind Value.mapping? with
        | none => rfl
        | some x =>
          obtain rfl := Value.bind_mapping?_eq_some_iff.1 lower
          exact absurd between (free x v z rfl rfl rfl)
      | some y =>
        obtain rfl := Value.mapping?_eq_some_iff.1 between
        rw [Option.map_some, Option.some_or, layerValue_maps, layerValue_map below,
          layerValue_map below, layerValue_maps]
        cases lower : below.bind Value.mapping? with
        | none => rfl
        | some x =>
          obtain rfl := Value.bind_mapping?_eq_some_iff.1 lower
          exact congrArg _ (nested x y z rfl rfl rfl)

/-- Of three mappings the lower two or the upper two may be put together first, unless something lies
    between the outer ones. -/
theorem layer_layer (aKeyed : a.isTextKeyed = true) (bKeyed : b.isTextKeyed = true)
    (cKeyed : c.isTextKeyed = true) (free : ¬ Interrupts b a c) :
    layer (layer a b) c = layer a (layer b c) := by
  induction c using Mapping.nested_induction generalizing a b with
  | step c nested =>
  have abKeyed := isTextKeyed_layer aKeyed bKeyed
  have bcKeyed := isTextKeyed_layer bKeyed cKeyed
  have inAb (key : Text) := find?_layer (Mapping.areDistinct_of_isTextKeyed b bKeyed) a key
  have inBc (key : Text) := find?_layer (Mapping.areDistinct_of_isTextKeyed c cKeyed) b key
  refine Mapping.eq_of_find? (isTextKeyed_layer abKeyed cKeyed) (isTextKeyed_layer aKeyed bcKeyed) ?_
    fun key => ?_
  · simp only [names_layer bKeyed, names_layer cKeyed, names_layer bcKeyed, inAb, List.filter_append,
      List.append_assoc, List.filter_filter]
    congr 2
    refine List.filter_congr fun key _ => ?_
    cases a.find? key <;> cases b.find? key <;> rfl
  · rw [find?_layer (Mapping.areDistinct_of_isTextKeyed c cKeyed),
      find?_layer (Mapping.areDistinct_of_isTextKeyed _ bcKeyed), inAb, inBc]
    cases above : c.find? key with
    | none => rfl
    | some w =>
      refine congrArg some (layerValue_layerValue ?_ ?_)
      · rintro x v z below between rfl noMapping
        exact free (interrupts_iff.2 ⟨key, x, z, below, above, .inl ⟨v, between, noMapping⟩⟩)
      · rintro x y z below between rfl
        exact nested key z above (Mapping.isTextKeyed_of_found aKeyed below)
          (Mapping.isTextKeyed_of_found bKeyed between) (Mapping.isTextKeyed_of_found cKeyed above)
          fun further => free (interrupts_iff.2 ⟨key, x, z, below, above, .inr ⟨y, between, further⟩⟩)

/-- A mapping that is put on itself stays as it is. -/
theorem layer_self (keyed : b.isTextKeyed = true) : layer b b = b := by
  induction b using Mapping.nested_induction with
  | step b nested =>
  refine Mapping.eq_of_find? (isTextKeyed_layer keyed keyed) keyed ?_ fun key => ?_
  · rw [names_layer keyed, List.append_right_eq_self, List.filter_eq_nil_iff]
    intro key listed
    rw [Option.isNone_iff_eq_none, Mapping.find?_eq_none_iff]
    exact not_not.2 listed
  · rw [find?_layer (Mapping.areDistinct_of_isTextKeyed b keyed)]
    cases found : b.find? key with
    | none => rfl
    | some w =>
      refine congrArg some ?_
      cases isMapping : w.mapping? with
      | none => exact layerValue_of_noMapping _ isMapping
      | some inner =>
        obtain rfl := Value.mapping?_eq_some_iff.1 isMapping
        rw [layerValue_maps, nested key inner found (Mapping.isTextKeyed_of_found keyed found)]

/-- What lies between two mappings hides the lower one, but only as long as the upper one is not put on
    it first. -/
theorem find?_layer_of_interrupts {x z : Mapping} (bKeyed : b.isTextKeyed = true)
    (cKeyed : c.isTextKeyed = true) (below : a.find? key = some (.map x))
    (between : b.find? key = some v) (noMapping : v.mapping? = none)
    (above : c.find? key = some (.map z)) :
    (layer (layer a b) c).find? key = some (.map z) ∧
      (layer a (layer b c)).find? key = some (.map (layer x z)) := by
  have inC := find?_layer (Mapping.areDistinct_of_isTextKeyed c cKeyed)
  have alone : layerValue (some v) (.map z) = .map z :=
    layerValue_of_noMapping_below fun w held => Option.some.inj held ▸ noMapping
  constructor
  · rw [inC, find?_layer (Mapping.areDistinct_of_isTextKeyed b bKeyed), above, between]
    simp only [Option.map_some, Option.some_or, layerValue_of_noMapping _ noMapping, alone]
  · have bcKeyed := isTextKeyed_layer bKeyed cKeyed
    rw [find?_layer (Mapping.areDistinct_of_isTextKeyed _ bcKeyed), inC, above, between, below,
      Option.map_some, alone, Option.some_or, Option.map_some, layerValue_maps, Option.some_or]

/-- Nothing lies between two mappings of which one is the mapping in the middle. -/
theorem not_interrupts_self (a b : Mapping) : ¬ Interrupts b a b := by
  rintro ⟨path, v, held, noMapping, -, outer, upper⟩
  obtain rfl := Option.some.inj (held.symm.trans upper)
  cases noMapping

/-- Layers may be regrouped where nothing lies between the outer ones, and a layer that is put on again,
    or on itself, changes nothing. -/
theorem layer_regroup (aKeyed : a.isTextKeyed = true) (bKeyed : b.isTextKeyed = true) :
    (∀ c : Mapping, c.isTextKeyed = true → ¬ Interrupts b a c →
      layer (layer a b) c = layer a (layer b c)) ∧
    layer (layer a b) b = layer a b ∧ layer b b = b := by
  refine ⟨fun c cKeyed free => layer_layer aKeyed bKeyed cKeyed free, ?_, layer_self bKeyed⟩
  rw [layer_layer aKeyed bKeyed bKeyed (not_interrupts_self a b), layer_self bKeyed]

/-- A mapping with two sections. -/
def firstSections : Mapping :=
  [("rules", .map [("severity", "error"), ("enabled", .bool true)]), ("paths", .map [("root", "src")])]

/-- A mapping with a switch in one section, a number in place of the other, and a new section. -/
def secondSections : Mapping :=
  [("more", .map [("depth", .int 2)]), ("paths", .int 3), ("rules", .map [("strict", .bool true)])]

/-- A mapping with switches in two sections. -/
def thirdSections : Mapping :=
  [("rules", .map [("options", .list []), ("severity", "info")]), ("more", .map [("depth", .map [])])]

theorem layer_regroup_sections :
    firstSections.isTextKeyed = true ∧ secondSections.isTextKeyed = true ∧
    thirdSections.isTextKeyed = true ∧ ¬ Interrupts secondSections firstSections thirdSections ∧
    layer (layer firstSections secondSections) thirdSections =
      layer firstSections (layer secondSections thirdSections) ∧
    layer (layer firstSections secondSections) secondSections =
      layer firstSections secondSections := by
  have first : firstSections.isTextKeyed = true := by decide
  have second : secondSections.isTextKeyed = true := by decide
  have third : thirdSections.isTextKeyed = true := by decide
  have free : ¬ Interrupts secondSections firstSections thirdSections := by
    rw [interrupts_iff]
    rintro ⟨key, x, z, below, above, between⟩
    rw [thirdSections, Mapping.find?_cons_str, Mapping.find?_cons_str] at above
    split at above
    next shared =>
      subst shared
      cases below
      rcases between with ⟨v, held, noMapping⟩ | ⟨y, held, further⟩
      · cases held
        cases noMapping
      · obtain ⟨key, x, -, inner, -⟩ := interrupts_iff.1 further
        rw [Mapping.find?_cons_str, Mapping.find?_cons_str] at inner
        split at inner
        · cases inner
        · split at inner <;> cases inner
    next =>
      split at above
      next own =>
        subst own
        cases below
      next => cases above
  obtain ⟨regrouped, again, -⟩ := layer_regroup first second
  exact ⟨first, second, third, free, regrouped thirdSections third free, again⟩

end Config

end ImportPolicy
