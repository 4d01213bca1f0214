import ImportPolicy.FileTree.Walk

/-! # Where a walk leads

* `FileTree.find?_of_walk` — a walk leads to an entry of the tree.
* `FileTree.MeetsLongName` — the walks that fail.
* `FileTree.LinkFree` — trees in which names lead one level down; `FileTree.walk_append_iff` takes a
  walk there apart. -/

namespace ImportPolicy

/-- The entry that a walk has led to. -/
def Target.entry : Target → Entry
  | .file content => .file content
  | .directory => .directory

namespace FileTree

variable {t : FileTree} {links : Nat} {directory l : Location} {names : List Text} {name : Text}
  {target : Target}

/-! ## One name -/

/-- A name that leads to an entry of the directory it is looked up in. -/
def IsPlain (name : Text) : Prop := ¬ (name = [] ∨ name = ".") ∧ name ≠ ".."

instance (name : Text) : Decidable (IsPlain name) := by
  unfold IsPlain
  infer_instance

theorem walk_nil (links : Nat) (directory : Location) :
    t.walk links directory [] = .ok (directory, .directory) := by
  cases links <;> rfl

theorem walk_skip (skipped : name = [] ∨ name = ".") (rest : List Text) :
    t.walk links directory (name :: rest) = t.walk links directory rest := by
  cases links <;> simp only [walk, walkNames, skipped, if_true]

theorem walk_above (rest : List Text) :
    t.walk links directory (".." :: rest) = t.walk links directory.dropLast rest := by
  cases links <;> rfl

theorem walk_plain (plain : IsPlain name) (rest : List Text) :
    t.walk links directory (name :: rest) =
      if 255 < byteLength name then .error .nameTooLong
      else match t.find? (directory ++ [name]) with
        | none => .error (.missing (if rest = [] then some (directory ++ [name]) else none))
        | some .directory => t.walk links (directory ++ [name]) rest
        | some (.file content) =>
          if rest = [] then .ok (directory ++ [name], .file content) else .error .notDirectory
        | some (.link target) =>
          match links with
          | 0 => .error .loop
          | links + 1 =>
            t.walk links (linkStart target directory) ((linkNames target).2 ++ rest) := by
  cases links <;> exact (if_neg plain.1).trans (if_neg plain.2)

/-- A walk goes on with fewer names or with fewer links to follow. -/
@[elab_as_elim]
theorem walk_induction (t : FileTree) {motive : Nat → Location → List Text → Prop}
    (nil : ∀ links directory, motive links directory [])
    (skip : ∀ links directory name rest, name = [] ∨ name = "." →
      motive links directory rest → motive links directory (name :: rest))
    (above : ∀ links directory rest,
      motive links directory.dropLast rest → motive links directory (".." :: rest))
    (plain : ∀ links directory name rest, IsPlain name →
      motive links (directory ++ [name]) rest →
      (∀ fewer text, links = fewer + 1 → t.find? (directory ++ [name]) = some (.link text) →
        motive fewer (linkStart text directory) ((linkNames text).2 ++ rest)) →
      motive links directory (name :: rest))
    (links : Nat) (directory : Location) (names : List Text) : motive links directory names := by
  induction links using Nat.strongRecOn generalizing directory names with
  | _ links withFewer =>
  induction names generalizing directory with
  | nil => exact nil links directory
  | cons name rest inductionHypothesis =>
    by_cases skipped : name = [] ∨ name = "."
    · exact skip links directory name rest skipped (inductionHypothesis directory)
    · by_cases up : name = ".."
      · exact up ▸ above links directory rest (inductionHypothesis _)
      · refine plain links directory name rest ⟨skipped, up⟩ (inductionHypothesis _) ?_
        intro fewer text less _
        exact withFewer fewer (by omega) _ _

/-- What a plain name leads to where the walk arrives. -/
theorem walk_plain_eq_ok (plain : IsPlain name) {rest : List Text}
    (h : t.walk links directory (name :: rest) = .ok (l, target)) :
    byteLength name ≤ 255 ∧
      (t.find? (directory ++ [name]) = some .directory ∧
          t.walk links (directory ++ [name]) rest = .ok (l, target) ∨
        (∃ content, t.find? (directory ++ [name]) = some (.file content) ∧ rest = [] ∧
          l = directory ++ [name] ∧ target = .file content) ∨
        ∃ fewer text, links = fewer + 1 ∧ t.find? (directory ++ [name]) = some (.link text) ∧
          t.walk fewer (linkStart text directory) ((linkNames text).2 ++ rest) =
            .ok (l, target)) := by
  rw [walk_plain plain] at h
  split at h
  · simp at h
  next short =>
  refine ⟨by omega, ?_⟩
  split at h
  · simp at h
  next found => exact .inl ⟨found, h⟩
  next content found =>
    split at h
    next last =>
      cases h
      exact .inr (.inl ⟨content, found, last, rfl, rfl⟩)
    · simp at h
  next text found =>
    cases links with
    | zero => simp at h
    | succ fewer => exact .inr (.inr ⟨fewer, text, rfl, found, h⟩)

/-! ## Entries -/

theorem mem_of_entryIn {entries : List (Location × Entry)} {e : Entry}
    (h : entryIn entries l = some e) : (l, e) ∈ entries := by
  induction entries with
  | nil => simp [entryIn] at h
  | cons listed rest inductionHypothesis =>
    obtain ⟨k, listed⟩ := listed
    by_cases same : k = l
    · simp only [entryIn, same, if_true, Option.some.injEq] at h
      simp [same, h]
    · simp only [entryIn, same, if_false] at h
      exact List.mem_cons_of_mem _ (inductionHypothesis h)

theorem find?_parent {e : Entry} (h : t.find? l = some e) (below : l ≠ []) :
    t.find? l.dropLast = some .directory := by
  rw [find?, if_neg below] at h
  rcases t.parent_directory _ (mem_of_entryIn h) with top | inside
  · rw [find?, if_pos top]
  · unfold find?
    split
    · rfl
    · exact inside

theorem find?_dropLast (h : t.find? l = some .directory) :
    t.find? l.dropLast = some .directory := by
  by_cases root : l = []
  · rw [root]
    rfl
  · exact find?_parent h root

theorem find?_linkStart (text : Text) (h : t.find? directory = some .directory) :
    t.find? (linkStart text directory) = some .directory := by
  unfold linkStart
  split
  · rfl
  · exact h

theorem find?_of_walk (start : t.find? directory = some .directory)
    (h : t.walk links directory names = .ok (l, target)) : t.find? l = some target.entry := by
  induction links, directory, names using walk_induction t with
  | nil links directory =>
    rw [walk_nil] at h
    cases h
    exact start
  | skip links directory name rest skipped inductionHypothesis =>
    exact inductionHypothesis start (walk_skip skipped rest ▸ h)
  | above links directory rest inductionHypothesis =>
    exact inductionHypothesis (find?_dropLast start) (walk_above rest ▸ h)
  | plain links directory name rest plain inside along =>
    obtain ⟨-, ⟨found, h⟩ | ⟨content, found, -, rfl, rfl⟩ | ⟨fewer, text, less, found, h⟩⟩ :=
      walk_plain_eq_ok plain h
    · exact inside found h
    · exact found
    · exact along fewer text less found (find?_linkStart text start) h

/-! ## Names that are too long -/

/-- A walk meets a name of more than 255 bytes in a directory that it has reached. -/
inductive MeetsLongName (t : FileTree) : Nat → Location → List Text → Prop where
  | here {links directory name rest} (long : 255 < byteLength name) :
      MeetsLongName t links directory (name :: rest)
  | skip {links directory name rest} (skipped : name = [] ∨ name = ".")
      (later : MeetsLongName t links directory rest) :
      MeetsLongName t links directory (name :: rest)
  | above {links directory rest} (later : MeetsLongName t links directory.dropLast rest) :
      MeetsLongName t links directory (".." :: rest)
  | inside {links directory name rest} (plain : IsPlain name)
      (found : t.find? (directory ++ [name]) = some .directory)
      (later : MeetsLongName t links (directory ++ [name]) rest) :
      MeetsLongName t links directory (name :: rest)
  | along {links directory name rest text} (plain : IsPlain name)
      (found : t.find? (directory ++ [name]) = some (.link text))
      (later : MeetsLongName t links (linkStart text directory) ((linkNames text).2 ++ rest)) :
      MeetsLongName t (links + 1) directory (name :: rest)

theorem byteLength_le_of_skipped (skipped : name = [] ∨ name = ".") : byteLength name ≤ 255 := by
  rcases skipped with rfl | rfl <;> decide

/-- A walk fails for a long name exactly if it meets one. -/
theorem walk_eq_nameTooLong_iff : t.walk links directory names = .error .nameTooLong ↔
    MeetsLongName t links directory names := by
  constructor
  · intro h
    induction links, directory, names using walk_induction t with
    | nil links directory => simp [walk_nil] at h
    | skip links directory name rest skipped inductionHypothesis =>
      exact .skip skipped (inductionHypothesis (walk_skip skipped rest ▸ h))
    | above links directory rest inductionHypothesis =>
      exact .above (inductionHypothesis (walk_above rest ▸ h))
    | plain links directory name rest plain inside along =>
      rw [walk_plain plain] at h
      split at h
      next long => exact .here long
      next short =>
      split at h
      · simp at h
      next found => exact .inside plain found (inside h)
      · split at h <;> simp at h
      next text found =>
        cases links with
        | zero => simp at h
        | succ fewer => exact .along plain found (along fewer text rfl found h)
  · intro meets
    induction meets with
    | @here links directory name rest long =>
      have plain : IsPlain name := by
        refine ⟨fun skipped => ?_, fun up => ?_⟩
        · have := byteLength_le_of_skipped skipped
          omega
        · exact absurd (up ▸ long) (by decide)
      rw [walk_plain plain, if_pos long]
    | skip skipped _ inductionHypothesis => rw [walk_skip skipped, inductionHypothesis]
    | above _ inductionHypothesis => rw [walk_above, inductionHypothesis]
    | inside plain found _ inductionHypothesis =>
      rw [walk_plain plain, found]
      simp only [inductionHypothesis, ite_self]
    | along plain found _ inductionHypothesis =>
      rw [walk_plain plain, found]
      simp only [inductionHypothesis, ite_self]

/-! ## Trees without links -/

/-- No entry is a link. -/
def LinkFree (t : FileTree) : Prop := ∀ l text, t.find? l ≠ some (.link text)

theorem linkFree_of_forall (noLink : ∀ e ∈ t.entries, ∀ text, e.2 ≠ .link text) :
    t.LinkFree := by
  intro l text found
  unfold find? at found
  split at found
  · simp at found
  · exact noLink _ (mem_of_entryIn found) text rfl

/-- Where nothing is a link, a walk along two lists of names is a walk to a directory and a walk
    from there. -/
theorem walk_append_iff (linkFree : t.LinkFree) {first second : List Text} (more : second ≠ []) :
    t.walk links directory (first ++ second) = .ok (l, target) ↔
      ∃ middle, t.walk links directory first = .ok (middle, .directory) ∧
        t.walk links middle second = .ok (l, target) := by
  induction links, directory, first using walk_induction t with
  | nil links directory => simp [walk_nil]
  | skip links directory name rest skipped inductionHypothesis =>
    rw [List.cons_append, walk_skip skipped, walk_skip skipped, inductionHypothesis]
  | above links directory rest inductionHypothesis =>
    rw [List.cons_append, walk_above, walk_above, inductionHypothesis]
  | plain links directory name rest plain inside along =>
    rw [List.cons_append, walk_plain plain, walk_plain plain]
    by_cases long : 255 < byteLength name
    · simp [long]
    · simp only [long, if_false]
      rcases found : t.find? (directory ++ [name]) with _ | _ | _ | text
      · simp
      · by_cases last : rest = [] <;> simp [last, more]
      · exact inside
      · exact absurd found (linkFree _ text)

/-- Where nothing is a link, a walk that comes to a directory goes on from there. -/
theorem walk_append (linkFree : t.LinkFree) {first : List Text} {middle : Location}
    (reached : t.walk links directory first = .ok (middle, .directory)) (second : List Text) :
    t.walk links directory (first ++ second) = t.walk links middle second := by
  induction links, directory, first using walk_induction t with
  | nil links directory =>
    rw [walk_nil] at reached
    cases reached
    rfl
  | skip links directory name rest skipped inductionHypothesis =>
    rw [walk_skip skipped] at reached
    rw [List.cons_append, walk_skip skipped, inductionHypothesis reached]
  | above links directory rest inductionHypothesis =>
    rw [walk_above] at reached
    rw [List.cons_append, walk_above, inductionHypothesis reached]
  | plain links directory name rest plain inside along =>
    obtain ⟨short, ⟨found, reached⟩ | ⟨_, -, -, -, file⟩ | ⟨_, text, -, found, -⟩⟩ :=
      walk_plain_eq_ok plain reached
    · rw [List.cons_append, walk_plain plain, if_neg (by omega), found]
      exact inside reached
    · cases file
    · exact absurd found (linkFree _ text)

theorem walk_singleton (linkFree : t.LinkFree) (plain : IsPlain name)
    (h : t.walk links directory [name] = .ok (l, target)) : l = directory ++ [name] := by
  obtain ⟨-, ⟨-, h⟩ | ⟨_, -, -, rfl, -⟩ | ⟨_, text, -, found, -⟩⟩ := walk_plain_eq_ok plain h
  · rw [walk_nil] at h
    cases h
    rfl
  · rfl
  · exact absurd found (linkFree _ text)

/-- Where nothing is a link, a plain name at the end leads one level down. -/
theorem walk_concat (linkFree : t.LinkFree) (plain : IsPlain name)
    (h : t.walk links directory (names ++ [name]) = .ok (l, target)) :
    ∃ middle, t.walk links directory names = .ok (middle, .directory) ∧ l = middle ++ [name] := by
  obtain ⟨middle, reached, h⟩ := (walk_append_iff linkFree (by simp)).1 h
  exact ⟨middle, reached, walk_singleton linkFree plain h⟩

theorem walk_of_skipped (skipped : ∀ name ∈ names, name = [] ∨ name = ".") :
    t.walk links directory names = .ok (directory, .directory) := by
  induction names with
  | nil => exact walk_nil links directory
  | cons name rest inductionHypothesis =>
    rw [walk_skip (skipped name (by simp))]
    exact inductionHypothesis fun other member => skipped other (List.mem_cons_of_mem _ member)

end FileTree

end ImportPolicy
