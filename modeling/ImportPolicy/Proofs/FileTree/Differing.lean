import ImportPolicy.FileTree.Read
import ImportPolicy.Proofs.FileTree.Walking

/-! # Trees that differ in one file

Two trees may differ in what a file holds, or in whether the file is there. A path that leads to this
file in neither of them leads to the same content in both.

* `FileTree.content` — the content of the file that a path leads to, if it leads to one.
* `FileTree.SameBut`, `FileTree.sameBut_overwrite` — trees that differ in one file at most.
* `FileTree.SameBut.walk_eq_or` — what walks lead to in the two.
* `FileTree.SameBut.content_eq` — a path that leads elsewhere. -/

namespace ImportPolicy.FileTree

variable {t t' : FileTree} {links : Nat} {current directory place : Location} {p q : Path}
  {name : Text} {bytes written : List UInt8}

/-! ## What files hold -/

/-- The content of the file that a path leads to; none if it leads to no file. -/
def content (t : FileTree) (current : Location) (p : Path) : Except Unreached (Option (List UInt8)) :=
  match t.reach current p with
  | .ok (_, .file bytes) => .ok (some bytes)
  | .ok (_, .directory) => .ok none
  | .error .nameTooLong => .error .nameTooLong
  | .error _ => .ok none

theorem isFile_eq_content (t : FileTree) (current : Location) (p : Path) :
    t.isFile current p = (t.content current p).map Option.isSome := by
  unfold isFile content
  rcases t.reach current p with (_ | _ | _ | _) | ⟨l, _ | _⟩ <;> rfl

theorem content_of_isFile (h : t.isFile current p = .ok true) :
    ∃ bytes, t.content current p = .ok (some bytes) := by
  rw [isFile_eq_content] at h
  rcases found : t.content current p with reason | _ | bytes <;> rw [found] at h
  · cases h
  · cases h
  · exact ⟨bytes, rfl⟩

theorem reach_of_content (h : t.content current p = .ok (some bytes)) :
    ∃ l, t.reach current p = .ok (l, .file bytes) := by
  unfold content at h
  split at h <;> cases h
  next l reached => exact ⟨l, reached⟩

/-- A path that leads anywhere has no code point that keeps a file from being opened. -/
theorem isStorable_of_reach {found : Location × Target} (h : t.reach current p = .ok found) :
    isStorable p.text = true := by
  cases storable : isStorable p.text with
  | true => rfl
  | false => simp [reach, storable] at h

theorem not_isStray_of_isStorable {text : Text} (storable : isStorable text = true) :
    text.any isStray = false ∧ .scalar '\x00' ∉ text := by
  rw [isStorable, List.all_eq_true] at storable
  refine ⟨?_, fun listed => absurd (storable _ listed) (by decide)⟩
  rw [List.any_eq_false]
  intro c listed
  have held := storable c listed
  cases c with
  | scalar c => simp [isStray]
  | surrogate offset =>
    simp only [Bool.and_eq_true, decide_eq_true_eq] at held
    simp [isStray, held]

/-- Reading a file that a path leads to depends on its content alone. -/
theorem readText_of_content (h : t.content current p = .ok (some bytes)) :
    t.readText current p =
      ((Utf8.decode? bytes).map Text.unifyNewlines).elim (.error (.undecodable bytes)) .ok := by
  obtain ⟨l, reached⟩ := reach_of_content h
  obtain ⟨noStray, noNul⟩ := not_isStray_of_isStorable (isStorable_of_reach reached)
  rw [readText, noStray, if_neg (by decide), if_neg noNul, reached]
  dsimp only
  cases Utf8.decode? bytes <;> rfl

theorem content_of_readText {cs : List Char} (h : t.readText current p = .ok cs) :
    ∃ bytes, t.content current p = .ok (some bytes) := by
  unfold readText at h
  split at h
  · cases h
  split at h
  · cases h
  split at h
  next l bytes reached => exact ⟨bytes, by rw [content, reached]⟩
  all_goals cases h

/-! ## Trees that differ in one file -/

/-- No directory and no link stands at a location. -/
def IsLeaf (t : FileTree) (l : Location) : Prop :=
  t.find? l = none ∨ ∃ bytes, t.find? l = some (.file bytes)

/-- The trees are the same but for a file at a place, which may be missing in either. -/
structure SameBut (place : Location) (t t' : FileTree) : Prop where
  leaf : t.IsLeaf place
  leaf' : t'.IsLeaf place
  elsewhere : ∀ l, l ≠ place → t'.find? l = t.find? l

theorem entryIn_map_rewritten_eq (entries : List (Location × Entry)) (l : Location) :
    entryIn (entries.map (rewritten place written)) l =
      (entryIn entries l).map fun e => if l = place then Entry.refilled written e else e := by
  induction entries with
  | nil => rfl
  | cons listed rest inductionHypothesis =>
    obtain ⟨k, e⟩ := listed
    by_cases same : k = l
    · simp [entryIn, rewritten, same]
    · simp only [List.map_cons, rewritten, entryIn, same, if_false]
      exact inductionHypothesis

theorem find?_overwrite (t : FileTree) (place : Location) (written : List UInt8) (l : Location) :
    (t.overwrite place written).find? l =
      (t.find? l).map fun e => if l = place then Entry.refilled written e else e := by
  by_cases root : l = []
  · subst root
    by_cases top : [] = place <;> simp [find?, top, Entry.refilled]
  · simp only [find?, root, if_false]
    exact entryIn_map_rewritten_eq t.entries l

/-- Writing a file changes nothing else. -/
theorem sameBut_overwrite (held : t.find? place = some (.file bytes)) (written : List UInt8) :
    SameBut place t (t.overwrite place written) where
  leaf := .inr ⟨bytes, held⟩
  leaf' := .inr ⟨written, by simp [find?_overwrite, held, Entry.refilled]⟩
  elsewhere l other := by simp [find?_overwrite, other]

/-- How a walk ends at a place where no directory and no link stands: it misses what is not there,
    leads to the file, or fails as names remain and a file has nothing inside. -/
inductive EndsAt (place : Location) : Option Entry → Except Unreached (Location × Target) → Prop where
  | vacant (vacancy : Option Location) : EndsAt place none (.error (.missing vacancy))
  | file (bytes : List UInt8) : EndsAt place (some (.file bytes)) (.ok (place, .file bytes))
  | inside (bytes : List UInt8) : EndsAt place (some (.file bytes)) (.error .notDirectory)

theorem endsAt_of_isLeaf (leaf : t.IsLeaf (directory ++ [name])) (plain : IsPlain name)
    (short : ¬ 255 < byteLength name) (rest : List Text) :
    EndsAt (directory ++ [name]) (t.find? (directory ++ [name]))
      (t.walk links directory (name :: rest)) := by
  rw [walk_plain plain, if_neg short]
  rcases leaf with vacant | ⟨bytes, held⟩
  · rw [vacant]
    exact .vacant _
  · rw [held]
    by_cases last : rest = []
    · simpa only [last, if_true] using .file bytes
    · simpa only [last, if_false] using .inside bytes

/-- A walk leads to the same in both trees, or it ends at the place in both. -/
theorem SameBut.walk_eq_or (same : SameBut place t t') (links : Nat) (directory : Location)
    (names : List Text) :
    t'.walk links directory names = t.walk links directory names ∨
      EndsAt place (t.find? place) (t.walk links directory names) ∧
        EndsAt place (t'.find? place) (t'.walk links directory names) := by
  induction links, directory, names using walk_induction t with
  | nil links directory => exact .inl (by rw [walk_nil, walk_nil])
  | skip links directory name rest skipped inductionHypothesis =>
    rw [walk_skip skipped, walk_skip skipped]
    exact inductionHypothesis
  | above links directory rest inductionHypothesis =>
    rw [walk_above, walk_above]
    exact inductionHypothesis
  | plain links directory name rest plain inside along =>
    by_cases long : 255 < byteLength name
    · exact .inl (by rw [walk_plain plain, walk_plain plain, if_pos long, if_pos long])
    -- At the place both walks end; at every other location both trees hold the same.
    by_cases here : directory ++ [name] = place
    · subst here
      exact .inr ⟨endsAt_of_isLeaf same.leaf plain long rest,
        endsAt_of_isLeaf same.leaf' plain long rest⟩
    · rw [walk_plain plain, walk_plain plain, if_neg long, if_neg long, same.elsewhere _ here]
      rcases found : t.find? (directory ++ [name]) with _ | _ | _ | text
      · exact .inl rfl
      · exact .inl rfl
      · exact inside
      · cases links with
        | zero => exact .inl rfl
        | succ fewer => exact along fewer text rfl found

theorem SameBut.reach_eq_or (same : SameBut place t t') (current : Location) (p : Path) :
    t'.reach current p = t.reach current p ∨
      EndsAt place (t.find? place) (t.reach current p) ∧
        EndsAt place (t'.find? place) (t'.reach current p) := by
  unfold reach
  split
  · exact .inl rfl
  split
  · exact .inl rfl
  · exact same.walk_eq_or linkLimit (pathStart current p) (pathNames p)

/-- A path leads to a place. -/
def LeadsTo (t : FileTree) (current : Location) (p : Path) (place : Location) : Prop :=
  ∃ target, t.reach current p = .ok (place, target)

instance : Decidable (t.LeadsTo current p place) :=
  decidable_of_iff ((t.reach current p).toOption.map (·.1) = some place) <| by
    unfold LeadsTo
    rcases t.reach current p with e | ⟨l, target⟩ <;> simp [Except.toOption]

/-- A path whose walk ends at a place without leading there leads to no file. -/
theorem content_of_endsAt {e : Option Entry} (ends : EndsAt place e (t.reach current p))
    (avoids : ¬ t.LeadsTo current p place) : t.content current p = .ok none := by
  unfold content
  generalize reached : t.reach current p = outcome at ends
  cases ends with
  | vacant vacancy => rfl
  | file bytes => exact absurd ⟨_, reached⟩ avoids
  | inside bytes => rfl

/-- A path that leads to the place in neither tree leads to the same content in both. -/
theorem SameBut.content_eq (same : SameBut place t t') (avoids : ¬ t.LeadsTo current p place)
    (avoids' : ¬ t'.LeadsTo current p place) : t'.content current p = t.content current p := by
  rcases same.reach_eq_or current p with equal | ⟨ends, ends'⟩
  · rw [content, equal]
    rfl
  · rw [content_of_endsAt ends avoids, content_of_endsAt ends' avoids']

end ImportPolicy.FileTree
