import ImportPolicy.Text.Case

/-! # Lower case

A text in lower case is its own lower case. The letters that a run moves are never moved to letters
that a run moves again, which is looked up in the table run by run.

* `CodePoint.IsLowered` — the code points that lower case leaves alone.
* `Text.lower_of_isLowered`, `Text.lower_lower` — texts of such code points. -/

namespace ImportPolicy

namespace Text

variable {n : Nat}

namespace CaseRun

variable {run other : CaseRun}

/-- Whether a run moves a letter. -/
def moves (run : CaseRun) (n : Nat) : Bool :=
  Nat.ble run.first n && (Nat.ble n run.last && Nat.beq ((n - run.first) % run.step) 0)

/-- Whether a run moves no letter to one that another run moves. Most runs lie apart, so that single
    letters are looked at for a few pairs only. -/
def avoids (run other : CaseRun) : Bool :=
  Nat.blt (run.last + run.distance).toNat other.first ||
    (Nat.blt other.last (run.first + run.distance).toNat ||
      (List.range (run.last - run.first + 1)).all fun k =>
        !(run.moves (run.first + k) && other.moves ((run.first + k : Nat) + run.distance).toNat))

theorem moves_iff : run.moves n = true ↔
    run.first ≤ n ∧ n ≤ run.last ∧ (n - run.first) % run.step = 0 := by
  rw [moves, Bool.and_eq_true, Bool.and_eq_true, Nat.ble_eq, Nat.ble_eq, Nat.beq_eq]

theorem partner?_eq (run : CaseRun) (n : Nat) :
    run.partner? n = if run.moves n then some (n + run.distance).toNat else none := by
  simp only [partner?, moves_iff]

theorem not_moves_of_avoids (apart : run.avoids other = true) (moved : run.moves n = true) :
    other.moves (n + run.distance).toNat = false := by
  obtain ⟨least, most, -⟩ := moves_iff.1 moved
  rw [Bool.eq_false_iff]
  intro again
  obtain ⟨otherLeast, otherMost, -⟩ := moves_iff.1 again
  simp only [avoids, Bool.or_eq_true, Nat.blt_eq, List.all_eq_true, List.mem_range] at apart
  rcases apart with before | behind | single
  · omega
  · omega
  · have absent := single (n - run.first) (by omega)
    rw [Nat.add_sub_cancel' least, moved, again] at absent
    cases absent

end CaseRun

/-- The runs of letters that lower case changes. One that becomes several code points is a run of its
    own. -/
def changed : List CaseRun := lowerRuns ++ lowerExpansions.map fun e => ⟨e.1, e.1, 1, 0⟩

theorem runs_avoid_changed : (lowerRuns.all fun run => changed.all run.avoids) = true := by
  decide +kernel

end Text

/-! ## Code points in lower case -/

namespace CodePoint

variable {c d : CodePoint}

/-- Lower case leaves a code point alone. -/
def IsLowered (c : CodePoint) : Prop := ∀ run ∈ Text.changed, run.moves c.toNat = false

instance (c : CodePoint) : Decidable c.IsLowered := by
  unfold IsLowered
  infer_instance

theorem isLowered_iff : c.IsLowered ↔ Text.lowerExpansions.lookup c.toNat = none ∧
    Text.lowerRuns.findSome? (·.partner? c.toNat) = none := by
  have alone (e : Nat × List Nat) :
      Text.CaseRun.moves ⟨e.1, e.1, 1, 0⟩ c.toNat = false ↔ (c.toNat == e.1) = false := by
    rw [Bool.eq_false_iff, Bool.eq_false_iff, ne_eq, ne_eq, Text.CaseRun.moves_iff, beq_iff_eq]
    simp only [Nat.mod_one, and_true]
    omega
  rw [IsLowered, Text.changed, List.forall_mem_append, List.forall_mem_map, and_comm]
  simp only [alone, List.lookup_eq_none_iff, List.findSome?_eq_none_iff, Text.CaseRun.partner?_eq]
  simp

theorem toNat_of_ofNat? {n : Nat} (h : ofNat? n = some c) : c.toNat = n := by
  rw [ofNat?] at h
  by_cases valid : n.isValidChar
  · rw [dif_pos valid] at h
    cases h
    rfl
  · rw [dif_neg valid] at h
    split at h <;> cases h
    simp only [toNat]
    omega

theorem mapCase_of_isLowered (lowered : c.IsLowered) :
    c.mapCase Text.lowerRuns Text.lowerExpansions = [c] := by
  obtain ⟨notExpanded, notMoved⟩ := isLowered_iff.1 lowered
  rw [mapCase, notExpanded, notMoved]

theorem expansions_isLowered : ∀ e ∈ Text.lowerExpansions, ∀ n ∈ e.2, ∀ run ∈ Text.changed,
    run.moves n = false := by
  decide +kernel

theorem isLowered_of_mem_mapCase (mapped : d ∈ c.mapCase Text.lowerRuns Text.lowerExpansions) :
    d.IsLowered := by
  unfold mapCase at mapped
  split at mapped
  next numbers expanded =>
    obtain ⟨n, listed, found⟩ := List.mem_filterMap.1 mapped
    obtain ⟨before, after, split, -⟩ := List.lookup_eq_some_iff.1 expanded
    have entry : (c.toNat, numbers) ∈ Text.lowerExpansions := by simp [split]
    intro run changes
    rw [toNat_of_ofNat? found]
    exact expansions_isLowered _ entry n listed run changes
  next notExpanded =>
    split at mapped
    next partner moved =>
      obtain ⟨run, listed, moved⟩ := List.exists_of_findSome?_eq_some moved
      rw [Text.CaseRun.partner?_eq] at moved
      split at moved <;> cases moved
      next moves =>
      rw [Option.mem_toList] at mapped
      intro other changes
      rw [toNat_of_ofNat? mapped]
      have apart := List.all_eq_true.1 Text.runs_avoid_changed run listed
      exact Text.CaseRun.not_moves_of_avoids (List.all_eq_true.1 apart other changes) moves
    next notMoved =>
      obtain rfl := List.mem_singleton.1 mapped
      exact isLowered_iff.2 ⟨notExpanded, notMoved⟩

end CodePoint

/-! ## Texts in lower case -/

namespace Text

theorem lowerAfter_of_isLowered {t : Text} (lowered : ∀ c ∈ t, c.IsLowered) (before : Text) :
    lowerAfter before t = t := by
  induction t generalizing before with
  | nil => rfl
  | cons c rest inductionHypothesis =>
    rw [List.forall_mem_cons] at lowered
    -- A capital sigma is not in lower case, so that the letters around make no difference.
    have noSigma : c ≠ .scalar 'Σ' := by
      rintro rfl
      exact absurd lowered.1 (by decide +kernel)
    rw [lowerAfter, if_neg noSigma, CodePoint.mapCase_of_isLowered lowered.1,
      inductionHypothesis lowered.2]
    rfl

theorem isLowered_lowerAfter (before t : Text) : ∀ c ∈ lowerAfter before t, c.IsLowered := by
  induction t generalizing before with
  | nil => exact List.forall_mem_nil _
  | cons c rest inductionHypothesis =>
    rw [lowerAfter, List.forall_mem_append]
    refine ⟨?_, inductionHypothesis _⟩
    split
    · split <;> decide +kernel
    · exact fun d mapped => CodePoint.isLowered_of_mem_mapCase mapped

theorem lower_of_isLowered {t : Text} (lowered : ∀ c ∈ t, c.IsLowered) : lower t = t :=
  lowerAfter_of_isLowered lowered []

theorem isLowered_lower (t : Text) : ∀ c ∈ lower t, c.IsLowered := isLowered_lowerAfter [] t

/-- A text in lower case is its own lower case. -/
theorem lower_lower (t : Text) : lower (lower t) = lower t :=
  lower_of_isLowered (isLowered_lower t)

end Text

end ImportPolicy
