import ImportPolicy.Proofs.Resolve.Failure
import ImportPolicy.Proofs.Rule.Switches
import ImportPolicy.Proofs.Specifier.Expression
import ImportPolicy.Proofs.Specifier.ModuleName

/-! # Names of packages

A specifier names a package as a whole if it is a plain name without slashes, or a scope and a name
with one slash at most between them. Each class is what its regular expression matches, and no path
is in one.

* `IsPlainName`, `IsScopedName` — the names of packages.
* `isPackageMain_iff`, `isScopedMain_iff` — the classes hold exactly these names.
* `matches_plainMain_iff`, `matches_scopedMain_iff` — and the regular expressions match them.
* `classes_exact` — what follows for specifiers that are paths. -/

namespace ImportPolicy.Specifier

variable {name : Text}

/-- A name is one word character and then no slash and no line feed, but for a line feed that may
    come last. -/
def IsPlainName (name : Text) : Prop :=
  ∃ first run ending, name = first :: (run ++ ending) ∧ first.isWord = true ∧
    (∀ c ∈ run, c ≠ Path.slash ∧ c ≠ .scalar '\n') ∧ (ending = [] ∨ ending = [.scalar '\n'])

/-- A name is an at sign and then two code points or more without a slash, or two parts that are not
    empty with one slash between them. -/
inductive IsScopedName : Text → Prop where
  | whole {piece : Text} (free : Path.slash ∉ piece) (long : 2 ≤ piece.length) :
      IsScopedName (.scalar '@' :: piece)
  | parted {scope package : Text} (scopeFree : Path.slash ∉ scope) (scopeNamed : scope ≠ [])
      (packageFree : Path.slash ∉ package) (packageNamed : package ≠ []) :
      IsScopedName (.scalar '@' :: (scope ++ Path.slash :: package))

theorem slash_ne_lineFeed : Path.slash ≠ .scalar '\n' := by decide

theorem slash_ne_atSign : Path.slash ≠ .scalar '@' := by decide

theorem isWord_marks :
    ∀ c ∈ [Path.slash, .scalar '.', .scalar '@'], CodePoint.isWord c = false := by
  decide +kernel

/-! ## Plain names -/

/-- A word character, then no slash before any character of the line, up to the end. -/
def plainMain : Expression :=
  .andThen (.one CodePoint.isWord)
    (.andThen (.many (.andThen (.notBefore (· = Path.slash)) (.one (· ≠ .scalar '\n')))) .atEnd)

theorem leads_inLine_iff (source rest : Text) :
    (Expression.andThen (.notBefore (· = Path.slash)) (.one (· ≠ .scalar '\n'))).Leads source rest ↔
      ∃ c, source = c :: rest ∧ decide (c ≠ Path.slash ∧ c ≠ .scalar '\n') = true := by
  simp only [Expression.leads_andThen_iff, Expression.leads_notBefore_iff, Expression.leads_one_iff]
  constructor
  · rintro ⟨_, ⟨rfl, ahead⟩, c, rfl, other⟩
    exact ⟨c, rfl, by simpa using And.intro ahead other⟩
  · rintro ⟨c, rfl, other⟩
    simp only [decide_eq_true_eq] at other
    exact ⟨_, ⟨rfl, by simp [other.1]⟩, c, rfl, by simp [other.2]⟩

theorem matches_plainMain_iff : plainMain.Matches name ↔ IsPlainName name := by
  simp only [Expression.Matches, plainMain, Expression.leads_andThen_iff, Expression.leads_one_iff,
    Expression.leads_atEnd_iff, Expression.leads_many_iff leads_inLine_iff, IsPlainName]
  constructor
  · rintro ⟨_, _, ⟨first, rfl, word⟩, ending, ⟨run, rfl, inLine⟩, -, stop⟩
    exact ⟨first, run, ending, rfl, word, by simpa using inLine, stop⟩
  · rintro ⟨first, run, ending, rfl, word, inLine, stop⟩
    exact ⟨ending, _, ⟨first, rfl, word⟩, ending, ⟨run, rfl, by simpa using inLine⟩, rfl, stop⟩

theorem isPlainRest_iff {rest : Text} : isPlainRest rest = true ↔
    ∃ run ending, rest = run ++ ending ∧ (∀ c ∈ run, c ≠ Path.slash ∧ c ≠ .scalar '\n') ∧
      (ending = [] ∨ ending = [.scalar '\n']) := by
  fun_induction isPlainRest rest with
  | case1 => exact iff_of_true rfl ⟨[], [], rfl, by simp, .inl rfl⟩
  | case2 c =>
    constructor
    · intro other
      by_cases feed : c = .scalar '\n'
      · exact ⟨[], [c], rfl, by simp, .inr (by rw [feed])⟩
      · exact ⟨[c], [], rfl, by simpa [feed] using other, .inl rfl⟩
    · rintro ⟨run, ending, whole, inLine, rfl | rfl⟩
      · obtain rfl : run = [c] := by simpa using whole.symm
        simpa using (inLine c (by simp)).1
      · obtain ⟨rfl, rfl⟩ : run = [] ∧ .scalar '\n' = c := by
          simpa [List.singleton_eq_append_iff] using whole
        decide
  | case3 c rest more inductionHypothesis =>
    simp only [Bool.and_eq_true, decide_eq_true_eq, inductionHypothesis]
    constructor
    · rintro ⟨other, run, ending, rfl, inLine, stop⟩
      exact ⟨c :: run, ending, rfl, List.forall_mem_cons.2 ⟨other, inLine⟩, stop⟩
    · rintro ⟨run, ending, whole, inLine, stop⟩
      cases run with
      | nil =>
        -- A line feed that ends the name has nothing behind it.
        rcases stop with rfl | rfl
        · cases whole
        · exact absurd (List.cons.inj whole).2 more
      | cons d run =>
        obtain ⟨rfl, rfl⟩ := List.cons.inj whole
        rw [List.forall_mem_cons] at inLine
        exact ⟨inLine.1, run, ending, rfl, inLine.2, stop⟩

theorem isPackageMain_iff : isPackageMain name = true ↔ IsPlainName name := by
  cases name with
  | nil => exact iff_of_false (by simp [isPackageMain]) fun ⟨_, _, _, whole, _⟩ => by cases whole
  | cons c rest =>
    simp only [isPackageMain, Bool.and_eq_true, isPlainRest_iff]
    constructor
    · rintro ⟨word, run, ending, rfl, inLine, stop⟩
      exact ⟨c, run, ending, rfl, word, inLine, stop⟩
    · rintro ⟨first, run, ending, whole, word, inLine, stop⟩
      obtain ⟨rfl, rfl⟩ := List.cons.inj whole
      exact ⟨word, run, ending, rfl, inLine, stop⟩

/-! ## Names in a scope -/

/-- One code point or more without a slash. -/
def part : Expression := .some (.one (· ≠ Path.slash))

/-- An at sign, and two parts with or without a slash between them, up to the end. -/
def scopedMain : Expression :=
  .andThen (.one (· = .scalar '@'))
    (.andThen part (.andThen (.optional (.one (· = Path.slash))) (.andThen part .atEnd)))

theorem leads_part_iff {source rest : Text} :
    part.Leads source rest ↔ ∃ run, run ≠ [] ∧ source = run ++ rest ∧ Path.slash ∉ run := by
  rw [part, Expression.leads_some_iff fun _ _ => Expression.leads_one_iff]
  refine exists_congr fun run => and_congr_right fun _ => and_congr_right fun _ => ?_
  simp only [decide_eq_true_eq]
  exact ⟨fun all member => all _ member rfl, fun free c member same => free (same ▸ member)⟩

theorem matches_scopedMain_iff : scopedMain.Matches name ↔ IsScopedName name := by
  simp only [Expression.Matches, scopedMain, Expression.leads_andThen_iff, Expression.leads_one_iff,
    Expression.leads_optional_iff, Expression.leads_atEnd_iff, leads_part_iff, decide_eq_true_eq]
  constructor
  · rintro ⟨ending, _, ⟨_, rfl, rfl⟩, _, ⟨scope, scopeNamed, rfl, scopeFree⟩, _, between, _,
      ⟨package, packageNamed, rfl, packageFree⟩, rfl, stop⟩
    -- A line feed behind the end is no slash, so it can be counted to the second part.
    have endFree : Path.slash ∉ package ++ ending := by
      rcases stop with rfl | rfl <;> simp [packageFree, slash_ne_lineFeed]
    rcases between with rfl | ⟨_, rfl, rfl⟩
    · refine .whole (by simpa [scopeFree] using endFree) ?_
      have := List.length_pos_iff.2 scopeNamed
      have := List.length_pos_iff.2 packageNamed
      simp only [List.length_append]
      omega
    · exact .parted scopeFree scopeNamed endFree (by simp [packageNamed])
  · intro inScope
    cases inScope with
    | @whole piece free long =>
      obtain ⟨c, d, rest, rfl⟩ : ∃ c d rest, piece = c :: d :: rest := by
        match piece, long with
        | c :: d :: rest, _ => exact ⟨c, d, rest, rfl⟩
      simp only [List.mem_cons, not_or] at free
      exact ⟨[], _, ⟨_, rfl, rfl⟩, d :: rest, ⟨[c], by simp, rfl, by simp [free.1]⟩, d :: rest,
        .inl rfl, [], ⟨d :: rest, by simp, by simp, by simp [free.2]⟩, rfl, .inl rfl⟩
    | @parted scope package scopeFree scopeNamed packageFree packageNamed =>
      exact ⟨[], _, ⟨_, rfl, rfl⟩, Path.slash :: package, ⟨scope, scopeNamed, rfl, scopeFree⟩,
        package, .inr ⟨_, rfl, rfl⟩, [], ⟨package, packageNamed, by simp, packageFree⟩, rfl,
        .inl rfl⟩

theorem isScopedMain_iff : isScopedMain name = true ↔ IsScopedName name := by
  constructor
  · intro inScope
    cases name with
    | nil => simp [isScopedMain] at inScope
    | cons c rest =>
      simp only [isScopedMain, Bool.and_eq_true, decide_eq_true_eq] at inScope
      obtain ⟨rfl, pieces⟩ := inScope
      have joined := Text.joinWith_splitOn Path.slash rest
      have free : ∀ piece ∈ Text.splitOn Path.slash rest, Path.slash ∉ piece :=
        fun _ => Text.not_mem_of_mem_splitOn
      split at pieces
      next piece split =>
        rw [split] at joined free
        obtain rfl : piece = rest := joined
        exact .whole (free piece (by simp)) (by simpa using pieces)
      next scope package split =>
        rw [split] at joined free
        obtain rfl : scope ++ [Path.slash] ++ package = rest := joined
        have named : scope ≠ [] ∧ package ≠ [] := by simpa using pieces
        rw [List.append_assoc, List.singleton_append]
        exact .parted (free scope (by simp)) named.1 (free package (by simp)) named.2
      · cases pieces
  · intro inScope
    cases inScope with
    | whole free long => simp [isScopedMain, Text.splitOn_of_not_mem free, long]
    | parted scopeFree scopeNamed packageFree packageNamed =>
      simp [isScopedMain, Text.splitOn_separator, Text.splitOn_of_not_mem scopeFree,
        Text.splitOn_of_not_mem packageFree, scopeNamed, packageNamed]

/-! ## Names and paths -/

theorem IsPlainName.not_isScopedName (plain : IsPlainName name) : ¬ IsScopedName name := by
  obtain ⟨first, run, ending, rfl, word, -, -⟩ := plain
  intro inScope
  have atSign : first = .scalar '@' := by
    generalize whole : first :: (run ++ ending) = name at inScope
    cases inScope <;> exact (List.cons.inj whole).1
  rw [atSign, isWord_marks _ (by simp)] at word
  cases word

theorem IsPlainName.baseModule_eq (plain : IsPlainName name) : baseModule name = name := by
  have free : Path.slash ∉ name := by
    obtain ⟨first, run, ending, rfl, word, inLine, stop⟩ := plain
    have notFirst : Path.slash ≠ first := by
      rintro rfl
      rw [isWord_marks _ (by simp)] at word
      cases word
    have notInRun : Path.slash ∉ run := fun member => (inLine _ member).1 rfl
    rcases stop with rfl | rfl <;> simp [notFirst, notInRun, slash_ne_lineFeed]
  apply baseModule_eq_self
  rw [Text.splitOn_of_not_mem free]
  split <;> simp

theorem IsScopedName.baseModule_eq (inScope : IsScopedName name) : baseModule name = name := by
  apply baseModule_eq_self
  cases inScope with
  | whole free long =>
    rw [Text.splitOn_of_not_mem (by simp [free, slash_ne_atSign])]
    split <;> simp
  | @parted scope package scopeFree scopeNamed packageFree packageNamed =>
    rw [← List.cons_append, Text.splitOn_separator, Text.splitOn_of_not_mem packageFree,
      Text.splitOn_of_not_mem (by simp [scopeFree, slash_ne_atSign])]
    simp

theorem head?_of_isPathLike (pathLike : isPathLike name = true) :
    name.head? = some Path.slash ∨ name.head? = some (.scalar '.') := by
  rcases isPathLike_iff_exists.1 pathLike with rfl | rfl | ⟨piece, member, rest, rfl⟩
  · exact .inr rfl
  · exact .inr rfl
  · rcases mem_pathPieces.1 member with rfl | rfl | rfl
    · exact .inl rfl
    · exact .inr rfl
    · exact .inr rfl

/-- A path starts with a mark that neither a plain name nor one in a scope starts with. -/
theorem isMain_eq_false_of_isPathLike (pathLike : isPathLike name = true) :
    isPackageMain name = false ∧ isScopedMain name = false := by
  cases name with
  | nil => cases pathLike
  | cons c rest =>
    have mark : c = Path.slash ∨ c = .scalar '.' := by simpa using head?_of_isPathLike pathLike
    have noWord : c.isWord = false := isWord_marks c (by simpa [or_assoc] using mark.imp_right .inl)
    have noAtSign : c ≠ .scalar '@' := by
      rcases mark with rfl | rfl <;> decide
    exact ⟨by simp [isPackageMain, noWord], by simp [isScopedMain, noAtSign]⟩

/-- What a policy says of package mains has no part in the finding about any other specifier. -/
theorem check_withIgnorePackages {ε : Type} {r : Resolver ε} (other : r.isMain name = false)
    (p : Policy) (ignore : Bool) :
    check { p with ignorePackages := ignore } r name = check p r name := by
  have kept (found : Option Diagnostic) :
      found.filter (fun d => !(decide (d.kind = .missing) && r.isMain name)) = found := by
    cases found <;> simp [other]
  have exempting : ∀ exempts, check { p with ignorePackages := exempts } r name =
      check { p with ignorePackages := false } r name
    | false => rfl
    | true => by rw [check_ignorePackages, funext kept, id_map']
  exact (exempting ignore).trans (exempting p.ignorePackages).symm

/-- The classes of package names are exact: each function accepts the names that the regular
    expression matches, and these have the given form. No name is in both, and every name is its own
    package. A path is in neither, and is no module of the runtime unless the settings add what it
    starts with, so that a check finds the same about it whether package mains are exempt or not. -/
theorem classes_exact (i : Importer) (name : Text) :
    ((isPackageMain name && isExternalPath i.settings none) = true ↔ IsPlainName name) ∧
    (plainMain.Matches name ↔ IsPlainName name) ∧
    (isScopedMain name = true ↔ IsScopedName name) ∧
    (scopedMain.Matches name ↔ IsScopedName name) ∧
    ¬ (isPackageMain name = true ∧ isScopedMain name = true) ∧
    (i.resolver.isMain name = true → baseModule name = name) ∧
    (NoPathModules i.settings → isPathLike name = true →
      isBuiltin i.settings name = false ∧ i.resolver.isMain name = false ∧
        ∀ (p : Policy) (ignore : Bool),
          check { p with ignorePackages := ignore } i.resolver name = check p i.resolver name) := by
  refine ⟨by simpa [isExternalPath] using isPackageMain_iff, matches_plainMain_iff, isScopedMain_iff,
    matches_scopedMain_iff, ?_, ?_, ?_⟩
  · rintro ⟨plain, inScope⟩
    exact (isPackageMain_iff.1 plain).not_isScopedName (isScopedMain_iff.1 inScope)
  · intro isMain
    change (isPackageMain name || isScopedMain name) = true at isMain
    rcases Bool.or_eq_true_iff.1 isMain with plain | inScope
    · exact (isPackageMain_iff.1 plain).baseModule_eq
    · exact (isScopedMain_iff.1 inScope).baseModule_eq
  · intro core pathLike
    obtain ⟨notPlain, notScoped⟩ := isMain_eq_false_of_isPathLike pathLike
    have other : i.resolver.isMain name = false := by
      simp [Resolver.isMain, Importer.resolver, notPlain, notScoped]
    exact ⟨isBuiltin_eq_false_of_isPathLike core pathLike, other, check_withIgnorePackages other⟩

theorem classes_exact_dottedPath :
    (Importer.alone.resolver.isMain "@p/q.js" = true ∧ baseModule "@p/q.js" = "@p/q.js") ∧
    NoPathModules Importer.alone.settings ∧ isPathLike "../@p/q.js" = true ∧
    isBuiltin Importer.alone.settings "../@p/q.js" = false ∧
    Importer.alone.resolver.isMain "../@p/q.js" = false ∧
    ∀ (p : Policy) (ignore : Bool),
      check { p with ignorePackages := ignore } Importer.alone.resolver "../@p/q.js" =
        check p Importer.alone.resolver "../@p/q.js" := by
  have isMain : Importer.alone.resolver.isMain "@p/q.js" = true := by decide +kernel
  have core : NoPathModules Importer.alone.settings := fun _ _ => List.not_mem_nil
  have pathLike : isPathLike "../@p/q.js" = true := by decide
  obtain ⟨-, -, -, -, -, itself, -⟩ := classes_exact Importer.alone "@p/q.js"
  obtain ⟨-, -, -, -, -, -, apart⟩ := classes_exact Importer.alone "../@p/q.js"
  exact ⟨⟨isMain, itself isMain⟩, core, pathLike, apart core pathLike⟩

end ImportPolicy.Specifier
