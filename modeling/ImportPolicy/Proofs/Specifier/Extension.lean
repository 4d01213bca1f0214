import ImportPolicy.Proofs.Text.Pieces
import ImportPolicy.Specifier.Extension
import Mathlib.Data.List.TakeWhile

/-! # What an extension is

* `lastSegment_eq` — the last segment is the last piece between separators.
* `HasExtension` — segments with an extension behind their last point.
* `extensionOf_eq_iff` — which extension a path has.
* `extensionOf_inv` — where the extension of a path stands.
* `extensionOf_separator` — what stands before a separator does not count. -/

namespace ImportPolicy

variable {path extension : Text}

theorem takeWhile_append_stop {α : Type} {test : α → Bool} {stop : α} (stops : test stop = false)
    (front back : List α) :
    (front ++ stop :: back).takeWhile test = front.takeWhile test := by
  rw [List.takeWhile_append, List.takeWhile_cons_of_neg (by simp [stops]), List.append_nil]
  split
  next all => exact ((List.takeWhile_prefix test).eq_of_length all).symm
  · rfl

theorem lastSegment_separator {separator : CodePoint} (separates : isSeparator separator = true)
    (front last : Text) : lastSegment (front ++ separator :: last) = lastSegment last := by
  unfold lastSegment
  rw [List.reverse_append, List.reverse_cons, List.append_assoc, List.singleton_append,
    takeWhile_append_stop (by simp [separates])]

theorem extensionOf_separator {separator : CodePoint} (separates : isSeparator separator = true)
    (front last : Text) : extensionOf (front ++ separator :: last) = extensionOf last := by
  rw [extensionOf, extensionOf, lastSegment_separator separates]

theorem exists_append_lastSegment (path : Text) :
    ∃ front, path = front ++ lastSegment path ∧
      ∀ c ∈ lastSegment path, isSeparator c = false := by
  refine ⟨(path.reverse.dropWhile fun c => !isSeparator c).reverse, ?_, fun c member => ?_⟩
  · rw [lastSegment, ← List.reverse_append, List.takeWhile_append_dropWhile, List.reverse_reverse]
  · have kept := List.mem_takeWhile_imp (List.mem_reverse.1 member)
    simpa using kept

theorem exists_last_separator (held : ∃ c ∈ path, isSeparator c = true) :
    ∃ front last separator, isSeparator separator = true ∧
      (∀ c ∈ last, isSeparator c = false) ∧ path = front ++ separator :: last := by
  obtain ⟨c, member, separates⟩ := held
  have some : (path.reverse.find? isSeparator).isSome :=
    List.find?_isSome.2 ⟨c, List.mem_reverse.2 member, separates⟩
  obtain ⟨separator, first⟩ := Option.isSome_iff_exists.1 some
  obtain ⟨separates, last, front, backwards, free⟩ := List.find?_eq_some_iff_append.1 first
  refine ⟨front.reverse, last.reverse, separator, separates, ?_, ?_⟩
  · intro c member
    simpa using free c (List.mem_reverse.1 member)
  · rw [← List.reverse_reverse path, backwards]
    simp

theorem lastSegment_eq_self (free : ∀ c ∈ path, isSeparator c = false) : lastSegment path = path := by
  rw [lastSegment, List.takeWhile_eq_self_iff.2, List.reverse_reverse]
  intro c member
  simp [free c (List.mem_reverse.1 member)]

/-- The last segment is the last of the pieces between separators. -/
theorem lastSegment_eq (path : Text) :
    lastSegment path = (path.splitOnP isSeparator).getLastD [] := by
  by_cases held : ∃ c ∈ path, isSeparator c = true
  · obtain ⟨front, last, separator, separates, free, rfl⟩ := exists_last_separator held
    rw [lastSegment_separator separates, lastSegment_eq_self free,
      List.splitOnP_append_cons _ _ separates, List.splitOnP_eq_singleton free]
    simp
  · have free : ∀ c ∈ path, isSeparator c = false := by simpa using held
    rw [lastSegment_eq_self free, List.splitOnP_eq_singleton free]
    rfl

/-! ## Extensions -/

/-- A segment ends with a point and an extension without points, behind a name with something else
    than points in it. -/
def HasExtension (segment extension : Text) : Prop :=
  ∃ name, segment = name ++ .scalar '.' :: extension ∧ (∃ c ∈ name, c ≠ .scalar '.') ∧
    .scalar '.' ∉ extension

theorem exists_append_extensionOf (h : extensionOf path ≠ []) :
    HasExtension (lastSegment path) (extensionOf path) := by
  unfold extensionOf at h ⊢
  dsimp only at h ⊢
  have halves := List.takeWhile_append_dropWhile (p := (· ≠ .scalar '.'))
    (l := (lastSegment path).reverse)
  have noPoint : ∀ c ∈ (lastSegment path).reverse.takeWhile (· ≠ .scalar '.'),
      c ≠ .scalar '.' := fun c member => by simpa using List.mem_takeWhile_imp member
  have point := List.head?_dropWhile_not (fun c => decide (c ≠ .scalar '.'))
    (lastSegment path).reverse
  generalize (lastSegment path).reverse.takeWhile (· ≠ .scalar '.') = after at h halves noPoint ⊢
  generalize (lastSegment path).reverse.dropWhile (· ≠ .scalar '.') = rest at h halves point ⊢
  cases rest with
  | nil => exact absurd rfl h
  | cons c stem =>
    have isPoint : c = .scalar '.' := by simpa using point
    dsimp only at h ⊢
    split at h
    next other =>
      rw [if_pos other]
      refine ⟨stem.reverse, ?_, by simpa using other, fun member => ?_⟩
      · rw [← List.reverse_reverse (lastSegment path), ← halves, isPoint]
        simp
      · exact noPoint _ (List.mem_reverse.1 member) rfl
    · exact absurd rfl h

theorem HasExtension.extensionOf_eq (has : HasExtension (lastSegment path) extension) :
    extensionOf path = extension := by
  obtain ⟨name, segment, ⟨c, member, other⟩, noPoint⟩ := has
  have ahead : ∀ d ∈ extension.reverse, decide (d ≠ .scalar '.') = true := by
    intro d member
    exact decide_eq_true fun point => noPoint (point ▸ List.mem_reverse.1 member)
  have named : name.reverse.any (· ≠ .scalar '.') = true :=
    List.any_eq_true.2 ⟨c, List.mem_reverse.2 member, decide_eq_true other⟩
  have backwards : (lastSegment path).reverse =
      extension.reverse ++ .scalar '.' :: name.reverse := by
    rw [segment, List.reverse_append, List.reverse_cons, List.append_assoc, List.singleton_append]
  rw [extensionOf, backwards, List.dropWhile_append_of_pos ahead,
    List.dropWhile_cons_of_neg (by simp)]
  dsimp only
  rw [if_pos named, List.takeWhile_append_of_pos ahead, List.takeWhile_cons_of_neg (by simp),
    List.append_nil, List.reverse_reverse]

/-- A path has the extension of its last segment, and the empty one if the segment has none. -/
theorem extensionOf_eq_iff : extensionOf path = extension ↔
    HasExtension (lastSegment path) extension ∨
      extension = [] ∧ ∀ other, ¬ HasExtension (lastSegment path) other := by
  constructor
  · rintro rfl
    by_cases has : ∃ other, HasExtension (lastSegment path) other
    · obtain ⟨other, has⟩ := has
      rw [has.extensionOf_eq]
      exact .inl has
    · refine .inr ⟨?_, not_exists.1 has⟩
      by_contra present
      exact has ⟨_, exists_append_extensionOf present⟩
  · rintro (has | ⟨rfl, none⟩)
    · exact has.extensionOf_eq
    · by_contra present
      exact none _ (exists_append_extensionOf present)

/-- An extension stands at the end of the path, behind a point and a name with something else than
    points in it; it holds neither points nor separators. -/
theorem extensionOf_inv (h : extensionOf path ≠ []) :
    ∃ stem, path = stem ++ .scalar '.' :: extensionOf path ∧ (∃ c ∈ stem, c ≠ .scalar '.') ∧
      .scalar '.' ∉ extensionOf path ∧ ∀ c ∈ extensionOf path, isSeparator c = false := by
  obtain ⟨front, whole, free⟩ := exists_append_lastSegment path
  obtain ⟨name, segment, ⟨c, member, other⟩, noPoint⟩ := exists_append_extensionOf h
  rw [segment] at whole free
  refine ⟨front ++ name, ?_, ⟨c, List.mem_append_right _ member, other⟩, noPoint, ?_⟩
  · rw [List.append_assoc]
    exact whole
  · intro c member
    exact free c (by simp [member])

end ImportPolicy
