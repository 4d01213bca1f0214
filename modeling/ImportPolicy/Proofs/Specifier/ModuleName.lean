import ImportPolicy.Proofs.Specifier.PathLike

/-! # Names of modules with an ending

* `Specifier.baseModule_append` — an ending without a slash leaves the package, or is part of it.
* `Specifier.isBuiltin_append_iff` — which specifiers name a module of the runtime only without
  their ending. -/

namespace ImportPolicy.Specifier

variable {settings : Settings} {name ending : Text}

/-- A specifier is by itself the name of a module of the runtime, or of one that the settings
    add, with no path behind it. -/
structure NamesModule (settings : Settings) (name : Text) : Prop where
  whole : baseModule name = name
  listed : name ∈ builtinModules ∨ name ∈ settings.coreModules

/-- A specifier with no more segments than its package is its package. -/
theorem baseModule_eq_self (few : (Text.splitOn Path.slash name).length ≤
    if name.head? = some (.scalar '@') then 2 else 1) : baseModule name = name := by
  have joined : Text.joinWith "/" (Text.splitOn Path.slash name) = name :=
    Text.joinWith_splitOn Path.slash name
  obtain ⟨first, rest, segments⟩ :=
    List.exists_cons_of_ne_nil (Text.splitOn_ne_nil Path.slash name)
  rw [segments] at joined
  simp only [baseModule, segments, List.length_cons] at few ⊢
  split at few
  next atSign => rw [if_pos atSign, List.take_of_length_le (by simpa using few), joined]
  next plain =>
    obtain rfl : rest = [] := List.length_eq_zero_iff.1 (by omega)
    rw [if_neg plain]
    exact joined

/-- An ending lengthens the last segment only. -/
theorem baseModule_append (free : Path.slash ∉ ending) (name : Text) :
    baseModule (name ++ ending) = baseModule name ∨ baseModule name = name := by
  by_cases held : Path.slash ∈ name
  · obtain ⟨front, last, rfl, lastFree⟩ := Text.exists_last_piece held
    have longerFree : Path.slash ∉ last ++ ending := by simp [lastFree, free]
    have segments := Text.splitOn_separator Path.slash front last
    have longer := Text.splitOn_separator Path.slash front (last ++ ending)
    obtain ⟨first, rest, frontSegments⟩ :=
      List.exists_cons_of_ne_nil (Text.splitOn_ne_nil Path.slash front)
    rw [Text.splitOn_of_not_mem lastFree, frontSegments] at segments
    rw [Text.splitOn_of_not_mem longerFree, frontSegments] at longer
    have start : (front ++ Path.slash :: (last ++ ending)).head? =
        (front ++ Path.slash :: last).head? := by
      cases front <;> rfl
    rw [List.append_assoc, List.cons_append]
    by_cases atSign : (front ++ Path.slash :: last).head? = some (.scalar '@')
    · cases rest with
      | nil =>
        right
        apply baseModule_eq_self
        rw [if_pos atSign, segments]
        simp
      | cons second rest =>
        left
        simp only [baseModule, start, if_pos atSign, segments, longer]
        simp
    · left
      simp only [baseModule, start, if_neg atSign, segments, longer]
      rfl
  · right
    apply baseModule_eq_self
    rw [Text.splitOn_of_not_mem held]
    split <;> simp

theorem baseModule_mem_builtinModules :
    ∀ listed ∈ builtinModules, baseModule listed ∈ builtinModules := by
  decide +kernel

theorem NamesModule.isBuiltin (names : NamesModule settings name) :
    isBuiltin settings name = true := by
  obtain ⟨whole, listed | added⟩ := names
  · simp [Specifier.isBuiltin, listed]
  · simp [Specifier.isBuiltin, whole, added]

/-- A specifier whose longer form names no module of the runtime names one exactly if it is the name
    of one as a whole. -/
theorem isBuiltin_append_iff (free : Path.slash ∉ ending)
    (notBuiltin : isBuiltin settings (name ++ ending) = false) :
    isBuiltin settings name = true ↔ NamesModule settings name := by
  refine ⟨fun builtin => ?_, NamesModule.isBuiltin⟩
  simp only [isBuiltin, Bool.or_eq_false_iff, Bool.or_eq_true, decide_eq_true_eq,
    List.contains_eq_mem, decide_eq_false_iff_not] at notBuiltin builtin
  obtain ⟨⟨⟨noPrefix, -⟩, baseNotListed⟩, baseNotAdded⟩ := notBuiltin
  have notPrefixed : Text.startsWith name "node:" = false := by
    rw [Bool.eq_false_iff] at noPrefix ⊢
    intro starts
    obtain ⟨rest, rfl⟩ := startsWith_iff.1 starts
    exact noPrefix (startsWith_iff.2 ⟨rest ++ ending, List.append_assoc ..⟩)
  have inBase : baseModule name ∈ builtinModules ∨ baseModule name ∈ settings.coreModules := by
    rcases builtin with ((starts | listed) | base) | added
    · simp [notPrefixed] at starts
    · exact .inl (baseModule_mem_builtinModules name listed)
    · exact .inl base
    · exact .inr added
  rcases baseModule_append free name with same | whole
  · rw [same] at baseNotListed baseNotAdded
    rcases inBase with listed | added
    · exact absurd listed baseNotListed
    · exact absurd added baseNotAdded
  · exact ⟨whole, whole ▸ inBase⟩

end ImportPolicy.Specifier
