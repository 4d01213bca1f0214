import ImportPolicy.Proofs.Check.Findings
import Mathlib.Logic.Function.Iterate

/-! # Obeying findings

Whoever obeys a finding writes the specifier anew: an unexpected extension is taken off, a missing
one is appended. For a specifier that stands for a path, this ends.

* `Resolver.Answers` — resolvers that never fail.
* `stripped` — a specifier without the extension that a check finds unexpected.
* `Settling` — what every specifier on the way has: the path, and no finding but that one. -/

namespace ImportPolicy

variable {ε : Type} {p : Policy} {r : Resolver ε} {specifier path extension : Text}

/-- Every lookup is answered, with a path or with none. -/
def Resolver.Answers (r : Resolver ε) : Prop :=
  ∀ specifier, ∃ found, r.resolve specifier = .ok found

/-- The specifier after an unexpected extension has been taken off; unchanged where a check finds
    none. -/
def stripped (p : Policy) (r : Resolver ε) (specifier : Text) : Text :=
  match check p r specifier with
  | .ok (some ⟨.unexpected, _, extension⟩) => withoutExtension specifier extension
  | _ => specifier

/-- A specifier stands for the path, and a check finds at most that the extension is
    unexpected. -/
structure Settling (p : Policy) (r : Resolver ε) (path extension specifier : Text) : Prop where
  resolved : r.resolve specifier = .ok (some path)
  finding : check p r specifier = .ok none ∨
    check p r specifier = .ok (some ⟨.unexpected, specifier, extension⟩)

/-- A specifier that stands for a path with a forbidden extension never misses it. -/
theorem settling_of_forbids (answers : r.Answers) (nonempty : path ≠ [])
    (resolved : r.resolve specifier = .ok (some path))
    (forbidden : p.forbids (extensionOf path) = true) :
    Settling p r path (extensionOf path) specifier := by
  have extension : subjectExtension (some path) specifier = extensionOf path := by
    rw [subjectExtension, subject_some nonempty]
  refine ⟨resolved, ?_⟩
  cases builtin : r.isBuiltin specifier with
  | true => exact .inl (check_of_isBuiltin builtin)
  | false =>
    cases spelt : spells specifier (extensionOf path) with
    | true =>
      obtain ⟨bare, bareResolved⟩ := answers (withoutExtension specifier (extensionOf path))
      rw [← extension] at spelt forbidden bareResolved
      rw [check_of_forbids builtin resolved spelt forbidden bareResolved, extension]
      by_cases same : bare = some path <;> simp [same]
    | false =>
      rw [← extension] at spelt forbidden
      rw [check_of_not_spells builtin resolved spelt,
        Policy.not_requires_of_forbids forbidden]
      exact .inl rfl

/-- Without an unexpected extension, a specifier stands for the same path and does not miss it. -/
theorem settling_withoutExtension (answers : r.Answers) (nonempty : path ≠ [])
    (resolved : r.resolve specifier = .ok (some path)) {d : Diagnostic}
    (h : check p r specifier = .ok (some d)) (kind : d.kind = .unexpected) :
    Settling p r path d.extension (withoutExtension specifier d.extension) := by
  obtain ⟨found, -, foundResolved, extension, -, forbidden, bareResolved⟩ := unexpected_inv h kind
  obtain rfl : found = some path := Except.ok.inj (foundResolved.symm.trans resolved)
  rw [subjectExtension, subject_some nonempty] at extension
  rw [extension] at forbidden bareResolved ⊢
  exact settling_of_forbids answers nonempty bareResolved forbidden

theorem stripped_of_check (h : check p r specifier = .ok (some ⟨.unexpected, specifier, extension⟩)) :
    stripped p r specifier = withoutExtension specifier extension := by
  simp [stripped, h]

theorem stripped_length_lt
    (h : check p r specifier = .ok (some ⟨.unexpected, specifier, extension⟩)) :
    (stripped p r specifier).length < specifier.length := by
  obtain ⟨found, -, -, -, spelt, -, -⟩ := unexpected_inv h rfl
  rw [stripped_of_check h]
  exact withoutExtension_length_lt spelt

theorem Settling.stripped (answers : r.Answers) (nonempty : path ≠ [])
    (settling : Settling p r path extension specifier) :
    Settling p r path extension (stripped p r specifier) := by
  obtain ⟨resolved, none | unexpected⟩ := settling
  · have unchanged : ImportPolicy.stripped p r specifier = specifier := by
      simp [ImportPolicy.stripped, none]
    rw [unchanged]
    exact ⟨resolved, .inl none⟩
  · rw [stripped_of_check unexpected]
    exact settling_withoutExtension answers nonempty resolved unexpected rfl

/-- Each step that changes the specifier shortens it, so there is a last one. -/
theorem Settling.exists_iterate (answers : r.Answers) (nonempty : path ≠ [])
    (settling : Settling p r path extension specifier) :
    ∃ n ≤ specifier.length,
      r.resolve ((ImportPolicy.stripped p r)^[n] specifier) = .ok (some path) ∧
      check p r ((ImportPolicy.stripped p r)^[n] specifier) = .ok none := by
  induction length : specifier.length using Nat.strongRecOn generalizing specifier with
  | _ length' inductionHypothesis =>
  subst length
  rcases settling.finding with none | unexpected
  · exact ⟨0, Nat.zero_le _, settling.resolved, none⟩
  · have shorter := stripped_length_lt unexpected
    obtain ⟨n, bound, resolved, settled⟩ :=
      inductionHypothesis _ shorter (settling.stripped answers nonempty) rfl
    exact ⟨n + 1, by omega, resolved, settled⟩

/-- Obeying the findings about a specifier that stands for a path ends well. An unexpected extension
    can be taken off: the path stays, what is left never misses the extension, and after finitely
    many steps nothing is found. A missing extension that can be appended is not found again. -/
theorem obeying_settles (answers : r.Answers) (nonempty : path ≠ [])
    (resolved : r.resolve specifier = .ok (some path)) :
    (∀ d, check p r specifier = .ok (some d) → d.kind = .unexpected →
      r.resolve (withoutExtension specifier d.extension) = r.resolve specifier ∧
      (check p r (withoutExtension specifier d.extension) = .ok none ∨
        check p r (withoutExtension specifier d.extension) =
          .ok (some ⟨.unexpected, withoutExtension specifier d.extension, d.extension⟩)) ∧
      ∃ n ≤ specifier.length,
        r.resolve ((stripped p r)^[n] specifier) = r.resolve specifier ∧
        check p r ((stripped p r)^[n] specifier) = .ok none) ∧
    (∀ d, check p r specifier = .ok (some d) → d.kind = .missing → d.extension ≠ [] →
      r.resolve (specifier ++ .scalar '.' :: d.extension) = r.resolve specifier →
      check p r (specifier ++ .scalar '.' :: d.extension) = .ok none) := by
  refine ⟨fun d h kind => ?_, fun d h kind spelt appended => ?_⟩
  · have next := settling_withoutExtension answers nonempty resolved h kind
    have start : Settling p r path d.extension specifier := by
      obtain ⟨-, -, -, same, -⟩ := finding_inv h
      refine ⟨resolved, .inr ?_⟩
      rw [h, ← same, ← kind]
    rw [resolved]
    exact ⟨next.resolved, next.finding, start.exists_iterate answers nonempty⟩
  · obtain ⟨found, -, foundResolved, extension, -, required⟩ := missing_inv h kind
    obtain rfl : found = some path := Except.ok.inj (foundResolved.symm.trans resolved)
    rw [subjectExtension, subject_some nonempty] at extension
    have again (longer : Text) : subjectExtension (some path) longer = d.extension := by
      rw [subjectExtension, subject_some nonempty, extension]
    rw [resolved] at appended
    cases builtin : r.isBuiltin (specifier ++ .scalar '.' :: d.extension) with
    | true => exact check_of_isBuiltin builtin
    | false =>
      apply check_of_not_forbids builtin appended
      · rw [again]
        exact spells_iff.2 ⟨spelt, specifier, rfl⟩
      · rw [again]
        exact forbids_eq_false_of_requires required

/-- A file that can be imported with its extension once, twice or not at all. -/
def threeSpellings : Resolver Empty :=
  .ofTables [("./a.js.js", some "/p/a.js"), ("./a.js", some "/p/a.js"), ("./a", some "/p/a.js")]
    [] [] []

theorem Resolver.ofTables_answers (paths : Table (Option Text))
    (builtins packageMains scopedMains : List Text) :
    (Resolver.ofTables (ε := ε) paths builtins packageMains scopedMains).Answers :=
  fun _ => ⟨_, rfl⟩

theorem obeying_settles_threeSpellings :
    (∃ n ≤ 9, threeSpellings.resolve ((stripped {} threeSpellings)^[n] "./a.js.js") =
        .ok (some "/p/a.js") ∧
      check {} threeSpellings ((stripped {} threeSpellings)^[n] "./a.js.js") = .ok none) ∧
    check { fallback := .always } threeSpellings "./a.js" = .ok none := by
  have answers : threeSpellings.Answers := Resolver.ofTables_answers _ _ _ _
  refine ⟨?_, ?_⟩
  · have settled := @obeying_settles Empty {} threeSpellings "./a.js.js" "/p/a.js" answers
      (by decide) rfl
    exact (settled.1 ⟨.unexpected, "./a.js.js", "js"⟩ rfl rfl).2.2
  · have settled := @obeying_settles Empty { fallback := .always } threeSpellings "./a" "/p/a.js"
      answers (by decide) rfl
    exact settled.2 ⟨.missing, "./a", "js"⟩ rfl rfl (by decide) rfl

end ImportPolicy
