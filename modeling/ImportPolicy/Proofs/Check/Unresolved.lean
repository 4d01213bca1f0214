import ImportPolicy.Proofs.Check.Findings
import ImportPolicy.Proofs.Resolve.Failure
import ImportPolicy.Proofs.Specifier.Extension
import ImportPolicy.Proofs.Specifier.ModuleName

/-! # Specifiers that stand for nothing

A lookup gives no path for a specifier that is nowhere, and none for a module of the runtime. A
check takes the extension of an unresolved specifier from its text, and takes two specifiers without
a path for the same. So an extension may be unexpected although the specifier without it is read in
another way.

* `missing_iff_of_unresolved` — when an unresolved specifier misses an extension.
* `missing_withoutExtension_iff` — when it does once an unexpected extension is taken off.
* `Importer.isBuiltin_withoutExtension_iff` — when it then names a module of the runtime. -/

namespace ImportPolicy

variable {ε : Type} {p : Policy} {r : Resolver ε} {specifier : Text} {d found : Diagnostic}

theorem spells_extensionOf (h : extensionOf specifier ≠ []) :
    spells specifier (extensionOf specifier) = true := by
  obtain ⟨stem, whole, -, -, -⟩ := extensionOf_inv h
  exact spells_iff.2 ⟨h, stem, whole⟩

/-- An unexpected extension of an unresolved specifier is read off its text, and the specifier
    without it is unresolved as well. -/
theorem unexpected_inv_of_unresolved (unresolved : r.resolve specifier = .ok none)
    (h : check p r specifier = .ok (some d)) (kind : d.kind = .unexpected) :
    d.extension = extensionOf specifier ∧ d.extension ≠ [] ∧
      r.resolve (withoutExtension specifier d.extension) = .ok none := by
  obtain ⟨path, -, resolved, extension, spelt, -, bareResolved⟩ := unexpected_inv h kind
  obtain rfl : path = none := Except.ok.inj (resolved.symm.trans unresolved)
  exact ⟨extension, (spells_iff.1 spelt).1, bareResolved⟩

/-! ## Missing extensions -/

/-- An unresolved specifier misses an extension exactly if it has none in its text and the policy
    requires the empty one, and that is the one it misses. -/
theorem missing_iff_of_unresolved (unresolved : r.resolve specifier = .ok none) :
    (check p r specifier = .ok (some d) ∧ d.kind = .missing) ↔
      d = ⟨.missing, specifier, []⟩ ∧ r.isBuiltin specifier = false ∧
        extensionOf specifier = [] ∧ p.requires [] (r.isMain specifier) = true := by
  constructor
  · rintro ⟨h, kind⟩
    obtain ⟨path, notBuiltin, resolved, extension, left, required⟩ := missing_inv h kind
    obtain ⟨-, -, -, same, -⟩ := finding_inv h
    obtain rfl : path = none := Except.ok.inj (resolved.symm.trans unresolved)
    have read : d.extension = extensionOf specifier := extension
    have none : extensionOf specifier = [] := by
      by_contra present
      rw [read, spells_extensionOf present] at left
      cases left
    rw [read, none] at required
    refine ⟨?_, notBuiltin, none, required⟩
    cases d
    simp_all
  · rintro ⟨rfl, notBuiltin, none, required⟩
    have empty : subjectExtension Option.none specifier = [] := none
    refine ⟨?_, rfl⟩
    rw [check_of_not_spells notBuiltin unresolved (by rw [empty]; rfl), empty, if_pos required]

/-- Whoever takes an unexpected extension off an unresolved specifier is told that one is missing
    exactly if none is left in the text and the policy requires the empty one. It is never the
    extension that was taken off. -/
theorem missing_withoutExtension_iff (unresolved : r.resolve specifier = .ok none)
    (h : check p r specifier = .ok (some d)) (kind : d.kind = .unexpected) :
    (check p r (withoutExtension specifier d.extension) = .ok (some found) ∧
        found.kind = .missing ↔
      found = ⟨.missing, withoutExtension specifier d.extension, []⟩ ∧
        r.isBuiltin (withoutExtension specifier d.extension) = false ∧
        extensionOf (withoutExtension specifier d.extension) = [] ∧
        p.requires [] (r.isMain (withoutExtension specifier d.extension)) = true) ∧
      d.extension ≠ [] := by
  obtain ⟨-, present, bareUnresolved⟩ := unexpected_inv_of_unresolved unresolved h kind
  exact ⟨missing_iff_of_unresolved bareUnresolved, present⟩

/-- A resolver to which every specifier is unknown. -/
def nowhere : Resolver Empty := .ofTables [] [] [] []

/-- All extensions have to be spelt but one, which has to be left out. -/
def allButScripts : Policy := { fallback := .always, pattern := [("js", .never)] }

theorem missing_withoutExtension_nowhere :
    check allButScripts nowhere "./a.b.js" = .ok (some ⟨.unexpected, "./a.b.js", "js"⟩) ∧
    ∀ found, ¬ (check allButScripts nowhere "./a.b" = .ok (some found) ∧
      found.kind = .missing) := by
  have unexpected :
      check allButScripts nowhere "./a.b.js" = .ok (some ⟨.unexpected, "./a.b.js", "js"⟩) := by
    decide
  refine ⟨unexpected, fun found missing => ?_⟩
  have cause := ((missing_withoutExtension_iff rfl unexpected rfl).1.1 missing).2.2.1
  revert cause
  decide

/-- The same policy finds the extension unexpected and then finds one missing. -/
theorem scripts_unexpected_then_missing :
    nowhere.resolve "./a.js" = .ok none ∧
    check allButScripts nowhere "./a.js" = .ok (some ⟨.unexpected, "./a.js", "js"⟩) ∧
    withoutExtension "./a.js" "js" = ("./a" : Text) ∧
    check allButScripts nowhere "./a" = .ok (some ⟨.missing, "./a", ""⟩) := by
  decide

/-! ## Modules of the runtime -/

namespace Importer

variable {i : Importer}

theorem resolve_of_isBuiltin (builtin : Specifier.isBuiltin i.settings specifier = true) :
    i.resolve specifier = .ok none := by
  rw [resolve, if_pos (.inr builtin)]

/-- An extension that is found unexpected can be taken off without naming a module of the runtime,
    unless the specifier stands for nothing and is, without the extension, the whole name of such a
    module. -/
theorem isBuiltin_withoutExtension_iff (h : check p i.resolver specifier = .ok (some d))
    (kind : d.kind = .unexpected) :
    Specifier.isBuiltin i.settings (withoutExtension specifier d.extension) = true ↔
      i.resolve specifier = .ok none ∧
        Specifier.NamesModule i.settings (withoutExtension specifier d.extension) := by
  obtain ⟨path, notBuiltin, resolved, extension, spelt, -, bareResolved⟩ := unexpected_inv h kind
  change Specifier.isBuiltin i.settings specifier = false at notBuiltin
  change i.resolve specifier = .ok path at resolved
  change i.resolve (withoutExtension specifier d.extension) = .ok path at bareResolved
  refine ⟨fun builtin => ?_, fun ⟨_, names⟩ => names.isBuiltin⟩
  obtain rfl : path = none :=
    Except.ok.inj (bareResolved.symm.trans (resolve_of_isBuiltin builtin))
  refine ⟨resolved, ?_⟩
  obtain ⟨present, stem, whole⟩ := spells_iff.1 spelt
  have free : Path.slash ∉ CodePoint.scalar '.' :: d.extension := by
    have read : d.extension = extensionOf specifier := extension
    obtain ⟨-, -, -, -, noSeparator⟩ := extensionOf_inv (read ▸ present)
    rw [← read] at noSeparator
    simp only [List.mem_cons, not_or]
    exact ⟨by decide, fun member => absurd (noSeparator _ member) (by decide)⟩
  have bare : withoutExtension specifier d.extension = stem := by
    rw [whole, withoutExtension_append]
  rw [bare] at builtin ⊢
  rw [whole] at notBuiltin
  exact (Specifier.isBuiltin_append_iff free notBuiltin).1 builtin

/-- A file alone in its tree, with a core module of its own. -/
def besideCore : Importer := { alone with settings := { coreModules := ["@app/core"] } }

theorem isBuiltin_withoutExtension_besideCore :
    check {} besideCore.resolver "@app/core.js" =
      .ok (some ⟨.unexpected, "@app/core.js", "js"⟩) ∧
    besideCore.resolve "@app/core.js" = .ok none ∧
    Specifier.NamesModule besideCore.settings (withoutExtension "@app/core.js" "js") := by
  have unexpected : check {} besideCore.resolver "@app/core.js" =
      .ok (some ⟨.unexpected, "@app/core.js", "js"⟩) := by
    decide +kernel
  exact ⟨unexpected, (isBuiltin_withoutExtension_iff unexpected rfl).1 (by decide +kernel)⟩

/-- A file that is nowhere has an unexpected extension, and without it the specifier names a module
    of the runtime. -/
theorem unexpected_before_core_module :
    check {} alone.resolver "path.js" = .ok (some ⟨.unexpected, "path.js", "js"⟩) ∧
    withoutExtension "path.js" "js" = ("path" : Text) ∧
    Specifier.isBuiltin alone.settings "path" = true := by
  decide +kernel

end Importer

end ImportPolicy
