import ImportPolicy.Check.Extensions

/-! # What a finding says

A check can end in few ways. Each is stated here once, from the answers of the resolver to the
outcome and from a finding back to the answers.

* `check_of_forbids`, `check_of_not_forbids`, `check_of_not_spells` — the outcome for a specifier
  whose lookup is answered.
* `finding_inv` — what has to hold where a check has a finding. -/

namespace ImportPolicy

variable {ε : Type} {p : Policy} {r : Resolver ε} {specifier : Text} {found bare : Option Text}

/-- The extension that a check looks at. -/
def subjectExtension (found : Option Text) (specifier : Text) : Text :=
  extensionOf (subject found specifier)

theorem subject_some {path : Text} (nonempty : path ≠ []) (specifier : Text) :
    subject (some path) specifier = path := by
  cases path with
  | nil => exact absurd rfl nonempty
  | cons c rest => rfl

theorem forbids_eq_false_of_requires {extension : Text} {isMain : Bool}
    (required : p.requires extension isMain = true) : p.forbids extension = false := by
  cases forbidden : p.forbids extension with
  | false => rfl
  | true => simp [Policy.not_requires_of_forbids forbidden] at required

/-! ## From the answers to the outcome -/

theorem check_of_isBuiltin (builtin : r.isBuiltin specifier = true) :
    check p r specifier = .ok none := by
  simp [check, builtin]

theorem check_of_forbids (notBuiltin : r.isBuiltin specifier = false)
    (resolved : r.resolve specifier = .ok found)
    (spelt : spells specifier (subjectExtension found specifier) = true)
    (forbidden : p.forbids (subjectExtension found specifier) = true)
    (stripped : r.resolve (withoutExtension specifier (subjectExtension found specifier)) = .ok bare) :
    check p r specifier = .ok (if bare = found then
      some ⟨.unexpected, specifier, subjectExtension found specifier⟩ else none) := by
  simp only [subjectExtension] at spelt forbidden stripped
  simp [check, notBuiltin, resolved, bind, Except.bind, pure, Except.pure, spelt, forbidden,
    stripped, subjectExtension]

theorem check_of_not_forbids (notBuiltin : r.isBuiltin specifier = false)
    (resolved : r.resolve specifier = .ok found)
    (spelt : spells specifier (subjectExtension found specifier) = true)
    (allowed : p.forbids (subjectExtension found specifier) = false) :
    check p r specifier = .ok none := by
  simp only [subjectExtension] at spelt allowed
  simp [check, notBuiltin, resolved, bind, Except.bind, pure, Except.pure, spelt, allowed]

theorem check_of_not_spells (notBuiltin : r.isBuiltin specifier = false)
    (resolved : r.resolve specifier = .ok found)
    (left : spells specifier (subjectExtension found specifier) = false) :
    check p r specifier = .ok (if p.requires (subjectExtension found specifier) (r.isMain specifier) then
      some ⟨.missing, specifier, subjectExtension found specifier⟩ else none) := by
  simp only [subjectExtension] at left
  by_cases required :
      p.requires (extensionOf (subject found specifier)) (r.isMain specifier) = true <;>
    simp [check, notBuiltin, resolved, bind, Except.bind, pure, Except.pure, left, required,
      subjectExtension]

/-! ## From a finding to the answers -/

/-- A finding has the specifier and the extension of the check that made it. An extension is
    unexpected only if it is forbidden and the specifier stands for the same path, or for none,
    without it; it is missing only if it is not spelt and has to be. -/
theorem finding_inv {d : Diagnostic} (h : check p r specifier = .ok (some d)) :
    ∃ found, r.isBuiltin specifier = false ∧ r.resolve specifier = .ok found ∧
      d.specifier = specifier ∧ d.extension = subjectExtension found specifier ∧
      (d.kind = .unexpected ∧ spells specifier d.extension = true ∧
          p.forbids d.extension = true ∧
          r.resolve (withoutExtension specifier d.extension) = .ok found ∨
        d.kind = .missing ∧ spells specifier d.extension = false ∧
          p.requires d.extension (r.isMain specifier) = true) := by
  unfold check at h
  split at h
  · simp at h
  next notBuiltin =>
  cases resolved : r.resolve specifier with
  | error e => simp [resolved, bind, Except.bind] at h
  | ok found =>
    simp only [resolved, bind, Except.bind, pure, Except.pure] at h
    refine ⟨found, by simpa using notBuiltin, rfl, ?_⟩
    split at h
    next spelt =>
      split at h
      next forbidden =>
        cases stripped : r.resolve (withoutExtension specifier
            (extensionOf (subject found specifier))) with
        | error e => simp [stripped] at h
        | ok bare =>
          simp only [stripped, Except.ok.injEq] at h
          split at h
          next same =>
            obtain rfl := Option.some.inj h
            subst same
            exact ⟨rfl, rfl, .inl ⟨rfl, spelt, forbidden, stripped⟩⟩
          · simp at h
      · simp at h
    next left =>
      split at h
      next required =>
        obtain rfl := Option.some.inj (Except.ok.inj h)
        exact ⟨rfl, rfl, .inr ⟨rfl, by simpa using left, required⟩⟩
      · simp at h

theorem unexpected_inv {d : Diagnostic} (h : check p r specifier = .ok (some d))
    (kind : d.kind = .unexpected) :
    ∃ found, r.isBuiltin specifier = false ∧ r.resolve specifier = .ok found ∧
      d.extension = subjectExtension found specifier ∧ spells specifier d.extension = true ∧
      p.forbids d.extension = true ∧
      r.resolve (withoutExtension specifier d.extension) = .ok found := by
  obtain ⟨found, notBuiltin, resolved, -, extension, ⟨-, rest⟩ | ⟨missing, -⟩⟩ := finding_inv h
  · exact ⟨found, notBuiltin, resolved, extension, rest⟩
  · simp [missing] at kind

theorem missing_inv {d : Diagnostic} (h : check p r specifier = .ok (some d))
    (kind : d.kind = .missing) :
    ∃ found, r.isBuiltin specifier = false ∧ r.resolve specifier = .ok found ∧
      d.extension = subjectExtension found specifier ∧ spells specifier d.extension = false ∧
      p.requires d.extension (r.isMain specifier) = true := by
  obtain ⟨found, notBuiltin, resolved, -, extension, ⟨unexpected, -⟩ | ⟨-, rest⟩⟩ := finding_inv h
  · simp [unexpected] at kind
  · exact ⟨found, notBuiltin, resolved, extension, rest⟩

/-! ## Spelling and stripping -/

theorem spells_iff {extension : Text} : spells specifier extension = true ↔
    extension ≠ [] ∧ ∃ stem, specifier = stem ++ .scalar '.' :: extension := by
  simp only [spells, Text.endsWith, Bool.and_eq_true, List.isSuffixOf_iff_suffix, List.IsSuffix]
  refine and_congr (by simp) (exists_congr fun stem => eq_comm)

@[simp] theorem withoutExtension_append (stem extension : Text) :
    withoutExtension (stem ++ .scalar '.' :: extension) extension = stem := by
  simp [withoutExtension]

theorem withoutExtension_length_lt {extension : Text} (spelt : spells specifier extension = true) :
    (withoutExtension specifier extension).length < specifier.length := by
  obtain ⟨-, stem, rfl⟩ := spells_iff.1 spelt
  simp

end ImportPolicy
