import ImportPolicy.Proofs.FileTree.Arriving
import ImportPolicy.Proofs.FileTree.Differing

/-! # Where links are followed to

A walk asks the file system for the whole way at once, while the real location of a path is put
together from questions about one link after another, each by the path of its location. Both come to
the same place unless a link on the way stands where a path is too long to ask about it.

* `FileTree.follow_congr` — real locations depend on the links that are seen, and on nothing else.
* `FileTree.MeetsHiddenLink` — walks that meet a link which is not seen.
* `FileTree.follow_of_walk` — the location that a walk arrives at is the real one. -/

namespace ImportPolicy.FileTree

variable {t t' : FileTree} {links : Nat} {directory l : Location} {names : List Text} {name : Text}
  {target : Target} {text : Text}

/-! ## Links that are seen -/

theorem linkAt?_of_find? (found : t.find? l = some (.link text))
    (seen : byteLength (Location.path l).text < 4096) : t.linkAt? l = some text := by
  rw [linkAt?, found]
  exact if_pos seen

theorem linkAt?_eq_none (noLink : ∀ text, t.find? l ≠ some (.link text)) : t.linkAt? l = none := by
  unfold linkAt?
  split
  next text found => exact absurd found (noLink text)
  · rfl

theorem followNames_congr (same : t.linkAt? = t'.linkAt?)
    (onLink : Location → List Text → Except Unreal Location) (directory : Location)
    (names : List Text) :
    t.followNames onLink directory names = t'.followNames onLink directory names := by
  induction names generalizing directory with
  | nil => rfl
  | cons name rest inductionHypothesis => simp only [followNames, inductionHypothesis, same]

theorem follow_congr (same : t.linkAt? = t'.linkAt?) (links : Nat) :
    t.follow links = t'.follow links := by
  funext directory names
  cases links with
  | zero => exact followNames_congr same _ directory names
  | succ fewer =>
    rw [follow, follow, follow_congr same fewer]
    exact followNames_congr same _ directory names

theorem realLocation_congr (same : t.linkAt? = t'.linkAt?) (current : Location) (p : Path) :
    t.realLocation current p = t'.realLocation current p := by
  rw [realLocation, realLocation, follow_congr same]

/-! ## One name -/

theorem follow_nil (links : Nat) (directory : Location) :
    t.follow links directory [] = .ok directory := by
  cases links <;> rfl

theorem follow_skip (skipped : name = [] ∨ name = ".") (rest : List Text) :
    t.follow links directory (name :: rest) = t.follow links directory rest := by
  cases links <;> simp only [follow, followNames, skipped, if_true]

theorem follow_above (rest : List Text) :
    t.follow links directory (".." :: rest) = t.follow links directory.dropLast rest := by
  cases links <;> rfl

theorem follow_kept (plain : IsPlain name) (kept : t.linkAt? (directory ++ [name]) = none)
    (rest : List Text) :
    t.follow links directory (name :: rest) = t.follow links (directory ++ [name]) rest := by
  cases links <;> simp only [follow, followNames, if_neg plain.1, if_neg plain.2, kept]

theorem follow_link (plain : IsPlain name) (seen : t.linkAt? (directory ++ [name]) = some text)
    (rest : List Text) :
    t.follow (links + 1) directory (name :: rest) =
      t.follow links (linkStart text directory) ((linkNames text).2 ++ rest) := by
  simp only [follow, followNames, if_neg plain.1, if_neg plain.2, seen]

/-! ## Walks that see all links -/

/-- A walk meets a link whose location has a path that is too long to ask about it. -/
inductive MeetsHiddenLink (t : FileTree) : Nat → Location → List Text → Prop where
  | here {links directory name rest text} (plain : IsPlain name)
      (found : t.find? (directory ++ [name]) = some (.link text))
      (hidden : 4096 ≤ byteLength (Location.path (directory ++ [name])).text) :
      MeetsHiddenLink t links directory (name :: rest)
  | skip {links directory name rest} (skipped : name = [] ∨ name = ".")
      (later : MeetsHiddenLink t links directory rest) :
      MeetsHiddenLink t links directory (name :: rest)
  | above {links directory rest} (later : MeetsHiddenLink t links directory.dropLast rest) :
      MeetsHiddenLink t links directory (".." :: rest)
  | inside {links directory name rest} (plain : IsPlain name)
      (found : t.find? (directory ++ [name]) = some .directory)
      (later : MeetsHiddenLink t links (directory ++ [name]) rest) :
      MeetsHiddenLink t links directory (name :: rest)
  | along {links directory name rest text} (plain : IsPlain name)
      (found : t.find? (directory ++ [name]) = some (.link text))
      (later : MeetsHiddenLink t links (linkStart text directory) ((linkNames text).2 ++ rest)) :
      MeetsHiddenLink t (links + 1) directory (name :: rest)

/-- No link is hidden where each stands at a short path. -/
theorem not_meetsHiddenLink
    (short : ∀ l text, t.find? l = some (.link text) → byteLength (Location.path l).text < 4096) :
    ¬ MeetsHiddenLink t links directory names := by
  intro meets
  induction meets with
  | here _ found hidden => exact absurd (short _ _ found) (by omega)
  | skip _ _ inductionHypothesis => exact inductionHypothesis
  | above _ inductionHypothesis => exact inductionHypothesis
  | inside _ _ _ inductionHypothesis => exact inductionHypothesis
  | along _ _ _ inductionHypothesis => exact inductionHypothesis

/-- No link stands on the way down to a file or a directory. -/
theorem not_meetsHiddenLink_location {rest : List Text} (plain : ∀ name ∈ rest, IsPlain name)
    (h : t.find? (directory ++ rest) = some target.entry) :
    ¬ MeetsHiddenLink t links directory rest := by
  induction rest generalizing directory with
  | nil => nofun
  | cons name rest inductionHypothesis =>
    rw [List.forall_mem_cons] at plain
    rw [List.append_cons] at h
    have noLink : ∀ text, t.find? (directory ++ [name]) ≠ some (.link text) := by
      intro text found
      by_cases last : rest = []
      · rw [last, List.append_nil, found] at h
        cases target <;> cases h
      · rw [find?_above h last] at found
        cases found
    intro meets
    cases meets with
    | here _ found => exact noLink _ found
    | skip skipped => exact plain.1.1 skipped
    | above => exact plain.1.2 rfl
    | inside _ _ later => exact inductionHypothesis plain.2 h later
    | along _ found => exact noLink _ found

/-- A walk that sees all links it meets arrives at the real location. -/
theorem follow_of_walk (h : t.walk links directory names = .ok (l, target))
    (seen : ¬ MeetsHiddenLink t links directory names) :
    t.follow links directory names = .ok l := by
  induction links, directory, names using walk_induction t with
  | nil links directory =>
    rw [walk_nil] at h
    cases h
    exact follow_nil links l
  | skip links directory name rest skipped inductionHypothesis =>
    rw [follow_skip skipped]
    exact inductionHypothesis (walk_skip skipped rest ▸ h) fun later => seen (.skip skipped later)
  | above links directory rest inductionHypothesis =>
    rw [follow_above]
    exact inductionHypothesis (walk_above rest ▸ h) fun later => seen (.above later)
  | plain links directory name rest plain inside along =>
    obtain ⟨-, ⟨found, h⟩ | ⟨content, found, rfl, rfl, -⟩ | ⟨fewer, text, rfl, found, h⟩⟩ :=
      walk_plain_eq_ok plain h
    · rw [follow_kept plain (linkAt?_eq_none (by simp [found]))]
      exact inside h fun later => seen (.inside plain found later)
    · rw [follow_kept plain (linkAt?_eq_none (by simp [found])), follow_nil]
    · have short : byteLength (Location.path (directory ++ [name])).text < 4096 :=
        Nat.lt_of_not_le fun hidden => seen (.here plain found hidden)
      rw [follow_link plain (linkAt?_of_find? found short)]
      exact along fewer text rfl found h fun later => seen (.along plain found later)

/-- The real location of a path, if it leads somewhere and all links on its way are seen. -/
theorem realLocation_of_reach {current : Location} {p : Path}
    (reached : t.reach current p = .ok (l, target))
    (seen : ¬ MeetsHiddenLink t linkLimit (pathStart current p) (pathNames p)) :
    t.realLocation current p = .ok l := by
  obtain ⟨noStray, noNul⟩ := not_isStray_of_isStorable (isStorable_of_reach reached)
  unfold reach at reached
  split at reached
  · cases reached
  split at reached
  · cases reached
  · rw [realLocation, noStray, if_neg Bool.false_ne_true, if_neg noNul]
    exact follow_of_walk reached seen

end ImportPolicy.FileTree
