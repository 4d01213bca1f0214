import ImportPolicy.Proofs.Check.Findings
import ImportPolicy.Proofs.Policy.LastWins

/-! # What a check looks up

A check looks one extension up in the policy: that of the path that the specifier stands for, or that
of the specifier. What the policy says of any other extension has no part in the finding, also not of
the one that shows when an extension is taken off.

* `check_congr` — policies that say the same of that extension.
* `patternOption` — an option that lists one extension.
* `check_extensionLocal` — the findings that such an option changes. -/

namespace ImportPolicy

variable {ε : Type} {p q : Policy} {r : Resolver ε} {specifier extension : Text}

theorem Policy.forbids_congr (same : p.modifierFor extension = q.modifierFor extension) :
    p.forbids extension = q.forbids extension := by
  rw [forbids, forbids, same]

theorem Policy.requires_congr (same : p.modifierFor extension = q.modifierFor extension)
    {isMain : Bool} (mains : p.ignorePackages = q.ignorePackages ∨ isMain = false) :
    p.requires extension isMain = q.requires extension isMain := by
  rw [requires, requires, same]
  rcases mains with alike | noMain
  · rw [alike]
  · rw [noMain, Bool.not_false, Bool.or_true, Bool.or_true]

/-- Two policies have the same finding about a specifier if they say the same of the extension that is
    looked at, and exempt package mains alike or find none. -/
theorem check_congr (same : ∀ found, r.resolve specifier = .ok found →
      p.modifierFor (subjectExtension found specifier) =
        q.modifierFor (subjectExtension found specifier))
    (mains : p.ignorePackages = q.ignorePackages ∨ r.isMain specifier = false) :
    check p r specifier = check q r specifier := by
  cases builtin : r.isBuiltin specifier with
  | true => rw [check_of_isBuiltin builtin, check_of_isBuiltin builtin]
  | false =>
    unfold check
    cases resolved : r.resolve specifier with
    | error e => rfl
    | ok found =>
      -- What is looked up after the specifier has been stripped is a path, not an extension.
      have forbids := Policy.forbids_congr (same found resolved)
      have requires := Policy.requires_congr (same found resolved) mains
      simp only [subjectExtension] at forbids requires
      simp only [bind, Except.bind, forbids, requires]

/-! ## An option that lists one extension -/

/-- An option that lists one extension. -/
def patternOption (extension : Text) (m : Modifier) : Value :=
  .map [("pattern", .map [(.str extension, .str m.name)])]

theorem read_patternOption (extension : Text) (m : Modifier) :
    Policy.readEntries [patternOption extension m] =
      .ok [.structured ⟨some [(extension, m)], none, none⟩] := by
  have read : Policy.Entry.read (patternOption extension m) =
      .ok (.structured ⟨some [(extension, m)], none, none⟩) := by
    refine Policy.Entry.read_eq_ok_iff.2 (.inr (.inr ⟨_, _, rfl, rfl, ?_, rfl⟩))
    have packages (v : Value) : Policy.ignorePackagesName [("pattern", v)] = "ignorePackages" := rfl
    refine Policy.overrides_eq_ok_iff.2 ⟨?_, by rw [packages]; rfl, rfl⟩
    cases m <;> rfl
  exact mapM_eq_ok_iff.2 (.cons read .nil)

theorem normalize_patternOption {values : List Value} (accepted : Policy.normalize values = .ok p)
    (extension : Text) (m : Modifier) :
    Policy.normalize (values ++ [patternOption extension m]) =
      .ok { p with pattern := p.pattern.put extension m } :=
  Policy.normalize_append accepted (read_patternOption extension m)

theorem modifierFor_put (p : Policy) (extension other : Text) (m : Modifier) :
    { p with pattern := p.pattern.put extension m }.modifierFor other =
      if extension = other then m else p.modifierFor other := by
  rw [Policy.modifierFor, Table.find?_put]
  split <;> rfl

/-- An option that lists one extension changes no finding but those that look at that extension. All
    that a finding takes from a policy is what it says of the extension looked at and, for a package
    main, whether these are exempt. -/
theorem check_extensionLocal {values : List Value} (accepted : Policy.normalize values = .ok p)
    (extension : Text) (m : Modifier) (r : Resolver ε) (specifier : Text) :
    (∃ q, Policy.normalize (values ++ [patternOption extension m]) = .ok q ∧
      (check q r specifier ≠ check p r specifier →
        ∃ found, r.resolve specifier = .ok found ∧
          subjectExtension found specifier = extension)) ∧
    ∀ first second : Policy,
      (∀ found, r.resolve specifier = .ok found →
        first.modifierFor (subjectExtension found specifier) =
          second.modifierFor (subjectExtension found specifier)) →
      first.ignorePackages = second.ignorePackages ∨ r.isMain specifier = false →
      check first r specifier = check second r specifier := by
  refine ⟨⟨_, normalize_patternOption accepted extension m, fun differs => ?_⟩,
    fun first second same mains => check_congr same mains⟩
  by_contra elsewhere
  refine differs (check_congr (fun found resolved => ?_) (.inl rfl))
  rw [modifierFor_put, if_neg fun same => elsewhere ⟨found, resolved, same.symm⟩]

/-- A specifier that stands for a file with another extension than the one in its text. -/
def compiled : Resolver Empty := .ofTables [("./a.js", some "/src/a.ts")] [] [] []

theorem check_extensionLocal_compiled :
    Policy.normalize ["always"] = .ok { fallback := .always } ∧
    ∃ q, Policy.normalize [.str "always", patternOption "js" .never] = .ok q ∧
      q.modifierFor "js" = .never ∧
      check q compiled "./a.js" = check { fallback := .always } compiled "./a.js" := by
  have accepted : Policy.normalize ["always"] = .ok { fallback := .always } := rfl
  obtain ⟨⟨q, appended, changed⟩, -⟩ :=
    check_extensionLocal accepted "js" .never compiled "./a.js"
  refine ⟨accepted, q, appended, ?_, ?_⟩
  · obtain rfl := Except.ok.inj (appended.symm.trans (normalize_patternOption accepted "js" .never))
    decide
  · by_contra differs
    obtain ⟨found, resolved, same⟩ := changed differs
    obtain rfl : some (Text.ofString "/src/a.ts") = found := Except.ok.inj resolved
    revert same
    decide

end ImportPolicy
