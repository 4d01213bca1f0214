import Mathlib.Data.List.Forall2

/-! # Traversals that may fail

What the outcome of a traversal says of the outcomes of its steps.

* `bind_eq_ok_iff`, `bind_answers_iff` — when steps one after another succeed.
* `mapM_congr`, `mapM_map_eq`, `mapM_eq_zipWith` — traversals whose steps are related.
* `mapM_eq_ok_iff`, `mapM_answers_iff` — when a traversal succeeds, and with what.
* `mapM_filter` — a traversal of some of the elements.
* `passes`, `filterM_eq_ok`, `filterM_answers_iff` — what a filter leaves, and when it succeeds.
* `foldlM_answers_iff` — when a fold succeeds.
* `forall₂_filterMap`, `forall₂_comp` — lists whose elements are related.
* `Avoids`, `avoids_bind_iff` — outcomes that are no errors of some kind. -/

namespace ImportPolicy

variable {ε α β γ : Type}

/-! ## Outcomes that can be told -/

/-- Whether an outcome is some error can be told, whatever its data are. -/
instance decidableEqError [DecidableEq ε] (outcome : Except ε α) (e : ε) :
    Decidable (outcome = .error e) :=
  match outcome with
  | .ok _ => isFalse nofun
  | .error found => decidable_of_iff (found = e) (Except.error.injEq found e ▸ Iff.rfl)

instance decidableEqOk [DecidableEq α] (outcome : Except ε α) (a : α) :
    Decidable (outcome = .ok a) :=
  match outcome with
  | .ok found => decidable_of_iff (found = a) (Except.ok.injEq found a ▸ Iff.rfl)
  | .error _ => isFalse nofun

instance decidableSucceeds (outcome : Except ε α) : Decidable (∃ a, outcome = .ok a) :=
  match outcome with
  | .ok a => isTrue ⟨a, rfl⟩
  | .error _ => isFalse nofun

instance decidableAnswers {P : α → Prop} [DecidablePred P] (outcome : Except ε α) :
    Decidable (∃ a, outcome = .ok a ∧ P a) :=
  match outcome with
  | .ok a => decidable_of_iff (P a) (by simp)
  | .error _ => isFalse nofun

/-! ## Steps and traversals -/

theorem map_eq_ok {f : α → β} {outcome : Except ε α} {b : β} (h : f <$> outcome = .ok b) :
    ∃ a, outcome = .ok a ∧ f a = b := by
  cases outcome with
  | error e => cases h
  | ok a => exact ⟨a, rfl, Except.ok.inj h⟩

theorem bind_eq_ok {f : α → Except ε β} {outcome : Except ε α} {b : β}
    (h : outcome >>= f = .ok b) : ∃ a, outcome = .ok a ∧ f a = .ok b := by
  cases outcome with
  | error e => cases h
  | ok a => exact ⟨a, rfl, h⟩

theorem bind_eq_ok_iff {f : α → Except ε β} {outcome : Except ε α} {b : β} :
    outcome >>= f = .ok b ↔ ∃ a, outcome = .ok a ∧ f a = .ok b :=
  ⟨bind_eq_ok, fun ⟨_, here, following⟩ => here ▸ following⟩

/-- Steps one after another succeed exactly if each of them does that is come to. -/
theorem bind_answers_iff {f : α → Except ε β} {outcome : Except ε α} :
    (∃ b, (outcome >>= f) = .ok b) ↔ ∃ a, outcome = .ok a ∧ ∃ b, f a = .ok b := by
  simp only [bind_eq_ok_iff]
  exact ⟨fun ⟨b, a, here, following⟩ => ⟨a, here, b, following⟩,
    fun ⟨a, here, b, following⟩ => ⟨b, a, here, following⟩⟩

theorem pure_eq_ok_iff {a b : α} : (pure a : Except ε α) = .ok b ↔ a = b := by
  simp [pure, Except.pure]

theorem mapError_eq_ok_iff {δ : Type} {f : ε → δ} {outcome : Except ε α} {a : α} :
    outcome.mapError f = .ok a ↔ outcome = .ok a := by
  cases outcome <;> simp [Except.mapError]

theorem mapM_congr {f g : α → Except ε β} {as : List α} (same : ∀ a ∈ as, f a = g a) :
    as.mapM f = as.mapM g := by
  induction as with
  | nil => rfl
  | cons a as inductionHypothesis =>
    rw [List.forall_mem_cons] at same
    rw [List.mapM_cons, List.mapM_cons, same.1, inductionHypothesis same.2]

theorem mapM_map_eq (f : α → Except ε β) (g : β → γ) (as : List α) :
    as.mapM (fun a => g <$> f a) = List.map g <$> as.mapM f := by
  induction as with
  | nil => rfl
  | cons a as inductionHypothesis =>
    rw [List.mapM_cons, List.mapM_cons, inductionHypothesis]
    cases f a with
    | error e => rfl
    | ok b => cases as.mapM f <;> rfl

theorem mapM_eq_zipWith {f g : α → Except ε β} {change : α → β → β} {as : List α}
    (changed : ∀ a ∈ as, g a = change a <$> f a) :
    as.mapM g = List.zipWith change as <$> as.mapM f := by
  induction as with
  | nil => rfl
  | cons a as inductionHypothesis =>
    rw [List.forall_mem_cons] at changed
    rw [List.mapM_cons, List.mapM_cons, changed.1, inductionHypothesis changed.2]
    cases f a with
    | error e => rfl
    | ok b => cases as.mapM f <;> rfl

theorem mapM_cons_eq_ok {f : α → Except ε β} {a : α} {as : List α} {bs : List β}
    (h : (a :: as).mapM f = .ok bs) :
    ∃ b rest, f a = .ok b ∧ as.mapM f = .ok rest ∧ bs = b :: rest := by
  rw [List.mapM_cons] at h
  obtain ⟨b, here, h⟩ := bind_eq_ok h
  obtain ⟨rest, following, h⟩ := bind_eq_ok h
  exact ⟨b, rest, here, following, (Except.ok.inj h).symm⟩

/-- A traversal gives what its steps give. -/
theorem mapM_eq_ok_iff {f : α → Except ε β} {as : List α} {bs : List β} :
    as.mapM f = .ok bs ↔ List.Forall₂ (fun a b => f a = .ok b) as bs := by
  constructor
  · intro h
    induction as generalizing bs with
    | nil =>
      cases h
      exact .nil
    | cons a as inductionHypothesis =>
      obtain ⟨b, rest, here, following, rfl⟩ := mapM_cons_eq_ok h
      exact .cons here (inductionHypothesis following)
  · intro steps
    induction steps with
    | nil => rfl
    | cons here _ inductionHypothesis =>
      rw [List.mapM_cons, here, inductionHypothesis]
      rfl

theorem exists_forall₂_iff {r : α → β → Prop} {as : List α} :
    (∃ bs, List.Forall₂ r as bs) ↔ ∀ a ∈ as, ∃ b, r a b := by
  induction as with
  | nil => simp
  | cons a rest ih =>
    rw [List.forall_mem_cons, ← ih]
    simp only [List.forall₂_cons_left_iff]
    constructor
    · rintro ⟨_, b, bs, related, others, rfl⟩
      exact ⟨⟨b, related⟩, bs, others⟩
    · rintro ⟨⟨b, related⟩, bs, others⟩
      exact ⟨b :: bs, b, bs, related, others, rfl⟩

/-- A traversal succeeds exactly if every step does. -/
theorem mapM_answers_iff {f : α → Except ε β} {as : List α} :
    (∃ bs, as.mapM f = .ok bs) ↔ ∀ a ∈ as, ∃ b, f a = .ok b := by
  simp only [mapM_eq_ok_iff, exists_forall₂_iff]

theorem forall_mem_of_mapM {P : β → Prop} {f : α → Except ε β} {as : List α} {bs : List β}
    (h : as.mapM f = .ok bs) (each : ∀ a b, f a = .ok b → P b) : ∀ b ∈ bs, P b := by
  rw [mapM_eq_ok_iff] at h
  induction h with
  | nil => exact fun b member => nomatch member
  | cons here _ inductionHypothesis =>
    exact List.forall_mem_cons.2 ⟨each _ _ here, inductionHypothesis⟩

theorem mapM_append_eq_ok {f : α → Except ε β} {as more : List α} {bs others : List β}
    (h : as.mapM f = .ok bs) (following : more.mapM f = .ok others) :
    (as ++ more).mapM f = .ok (bs ++ others) := by
  rw [List.mapM_append, h, following]
  rfl

/-- A traversal whose results determine those of another one. -/
theorem mapM_eq_ok_map {f : α → Except ε β} {g : α → Except ε γ} {change : β → γ} {as : List α}
    {bs : List β} (h : as.mapM f = .ok bs)
    (changed : ∀ a b, f a = .ok b → g a = .ok (change b)) :
    as.mapM g = .ok (bs.map change) := by
  induction as generalizing bs with
  | nil =>
    cases h
    rfl
  | cons a as inductionHypothesis =>
    obtain ⟨b, rest, here, following, rfl⟩ := mapM_cons_eq_ok h
    rw [List.mapM_cons, changed a b here, inductionHypothesis following]
    rfl

/-- A traversal that succeeds also succeeds on some of the elements, with their results. -/
theorem mapM_filter {f : α → Except ε β} {as : List α} {bs : List β} {keep : α → Bool}
    {kept : β → Bool} (h : as.mapM f = .ok bs) (same : ∀ a b, f a = .ok b → kept b = keep a) :
    (as.filter keep).mapM f = .ok (bs.filter kept) := by
  induction as generalizing bs with
  | nil =>
    cases h
    rfl
  | cons a as inductionHypothesis =>
    obtain ⟨b, rest, here, following, rfl⟩ := mapM_cons_eq_ok h
    have rested := inductionHypothesis following
    have alike := same a b here
    cases isKept : keep a with
    | false =>
      rw [isKept] at alike
      rw [List.filter_cons_of_neg (by simp [isKept]), List.filter_cons_of_neg (by simp [alike]),
        rested]
    | true =>
      rw [isKept] at alike
      rw [List.filter_cons_of_pos isKept, List.filter_cons_of_pos alike, List.mapM_cons, here,
        rested]
      rfl

theorem mapM_filter_of_pairs {f : α → Except ε β} {as : List α} {pairs : List (α × β)}
    (h : as.mapM (fun a => (a, ·) <$> f a) = .ok pairs) (keep : α → Bool) :
    (as.filter keep).mapM f = .ok ((pairs.filter fun pair => keep pair.1).map Prod.snd) := by
  have steps (a : α) (pair : α × β) (paired : (a, ·) <$> f a = .ok pair) :
      pair.1 = a ∧ f a = .ok pair.2 := by
    obtain ⟨b, here, rfl⟩ := map_eq_ok paired
    exact ⟨rfl, here⟩
  exact mapM_eq_ok_map (mapM_filter h fun a pair paired => congrArg keep (steps a pair paired).1)
    fun a pair paired => (steps a pair paired).2

/-- Whether a test passes; no where it fails. -/
def passes (test : α → Except ε Bool) (a : α) : Bool := (test a).toOption.getD false

theorem passes_eq_true_iff {test : α → Except ε Bool} {a : α} :
    passes test a = true ↔ test a = .ok true := by
  unfold passes
  cases test a <;> simp [Except.toOption]

theorem filterAuxM_eq_ok {test : α → Except ε Bool} {as kept : List α} {acc : List α}
    (h : as.filterAuxM test acc = .ok kept) : kept = (as.filter (passes test)).reverse ++ acc := by
  induction as generalizing acc with
  | nil =>
    cases h
    rfl
  | cons a as inductionHypothesis =>
    obtain ⟨b, tested, h⟩ := bind_eq_ok h
    have here : passes test a = b := by simp [passes, tested, Except.toOption]
    rw [inductionHypothesis h]
    cases b with
    | true => simp [List.filter_cons_of_pos here]
    | false => simp [here]

/-- A filter whose tests may fail leaves what passes. -/
theorem filterM_eq_ok {test : α → Except ε Bool} {as kept : List α}
    (h : as.filterM test = .ok kept) : kept = as.filter (passes test) := by
  obtain ⟨backwards, filtered, h⟩ := bind_eq_ok h
  cases h
  rw [filterAuxM_eq_ok filtered, List.append_nil, List.reverse_reverse]

/-- A filter succeeds exactly if every test does. -/
theorem filterM_answers_iff {test : α → Except ε Bool} {as : List α} :
    (∃ kept, as.filterM test = .ok kept) ↔ ∀ a ∈ as, ∃ b, test a = .ok b := by
  have aux (acc : List α) :
      (∃ kept, as.filterAuxM test acc = .ok kept) ↔ ∀ a ∈ as, ∃ b, test a = .ok b := by
    induction as generalizing acc with
    | nil => exact ⟨fun _ => List.forall_mem_nil _, fun _ => ⟨acc, rfl⟩⟩
    | cons a rest inductionHypothesis =>
      rw [List.forall_mem_cons, List.filterAuxM, bind_answers_iff]
      simp only [inductionHypothesis]
      exact ⟨fun ⟨b, here, others⟩ => ⟨⟨b, here⟩, others⟩,
        fun ⟨⟨b, here⟩, others⟩ => ⟨b, here, others⟩⟩
  rw [List.filterM, bind_answers_iff, ← aux []]
  exact ⟨fun ⟨kept, filtered, _⟩ => ⟨kept, filtered⟩, fun ⟨kept, filtered⟩ => ⟨kept, filtered, _, rfl⟩⟩

/-- A fold succeeds exactly if every step does, where the data so far make no difference to that. -/
theorem foldlM_answers_iff {f : β → α → Except ε β} {answered : α → Prop} {as : List α}
    (step : ∀ a ∈ as, ∀ b, (∃ next, f b a = .ok next) ↔ answered a) (b : β) :
    (∃ last, as.foldlM f b = .ok last) ↔ ∀ a ∈ as, answered a := by
  induction as generalizing b with
  | nil => exact ⟨fun _ => List.forall_mem_nil _, fun _ => ⟨b, rfl⟩⟩
  | cons a rest inductionHypothesis =>
    rw [List.forall_mem_cons] at step
    rw [List.foldlM_cons, List.forall_mem_cons, ← step.1 b]
    constructor
    · rintro ⟨last, folded⟩
      obtain ⟨next, here, folded⟩ := bind_eq_ok folded
      exact ⟨⟨next, here⟩, (inductionHypothesis step.2 next).1 ⟨last, folded⟩⟩
    · rintro ⟨⟨next, here⟩, others⟩
      rw [here]
      exact (inductionHypothesis step.2 next).2 others

/-! ## Related lists -/

theorem forall₂_filterMap (f : α → Option β) (as : List α) :
    List.Forall₂ (fun a b => a ∈ as ∧ f a = some b) (as.filter fun a => (f a).isSome)
      (as.filterMap f) := by
  induction as with
  | nil => exact .nil
  | cons a rest inductionHypothesis =>
    have later := inductionHypothesis.imp fun other b related =>
      And.intro (List.mem_cons_of_mem a related.1) related.2
    cases found : f a with
    | none =>
      rw [List.filter_cons_of_neg (by simp [found]), List.filterMap_cons_none found]
      exact later
    | some b =>
      rw [List.filter_cons_of_pos (by simp [found]), List.filterMap_cons_some found]
      exact .cons ⟨List.mem_cons_self, found⟩ later

theorem forall₂_comp {first : α → β → Prop} {second : β → γ → Prop} {as : List α} {bs : List β}
    {cs : List γ} (before : List.Forall₂ first as bs) (after : List.Forall₂ second bs cs) :
    List.Forall₂ (fun a c => ∃ b, first a b ∧ second b c) as cs := by
  induction before generalizing cs with
  | nil =>
    cases after
    exact .nil
  | cons here _ inductionHypothesis =>
    cases after with
    | cons there after => exact .cons ⟨_, here, there⟩ (inductionHypothesis after)

theorem exists_of_forall₂ {r : α → β → Prop} {as : List α} {bs : List β}
    (related : List.Forall₂ r as bs) {b : β} (listed : b ∈ bs) : ∃ a ∈ as, r a b := by
  induction related with
  | nil => cases listed
  | cons here _ inductionHypothesis =>
    rcases List.mem_cons.1 listed with rfl | later
    · exact ⟨_, List.mem_cons_self, here⟩
    · obtain ⟨a, member, held⟩ := inductionHypothesis later
      exact ⟨a, List.mem_cons_of_mem _ member, held⟩

theorem map_eq_map_of_forall₂ {f : α → γ} {g : β → γ} {as : List α} {bs : List β}
    (related : List.Forall₂ (fun a b => f a = g b) as bs) : as.map f = bs.map g := by
  induction related with
  | nil => rfl
  | cons here _ inductionHypothesis => rw [List.map_cons, List.map_cons, here, inductionHypothesis]

/-! ## Kinds of errors -/

/-- An outcome is no error of some kind. -/
def Avoids (kind : ε → Prop) (outcome : Except ε α) : Prop := ∀ e, outcome = .error e → ¬ kind e

section Avoids

variable {δ : Type} {kind : ε → Prop} {e : ε} {outcome : Except ε α}

@[simp] theorem avoids_ok (kind : ε → Prop) (a : α) : Avoids kind (.ok a : Except ε α) := nofun

@[simp] theorem avoids_error_iff : Avoids kind (.error e : Except ε α) ↔ ¬ kind e := by
  simp [Avoids]

instance decidableAvoids [DecidablePred kind] (outcome : Except ε α) :
    Decidable (Avoids kind outcome) :=
  match outcome with
  | .ok a => isTrue (avoids_ok kind a)
  | .error e => decidable_of_iff (¬ kind e) avoids_error_iff.symm

theorem avoids_of_forall_not (none : ∀ e, ¬ kind e) (outcome : Except ε α) : Avoids kind outcome :=
  fun e _ => none e

theorem avoids_iff_answers (all : ∀ e, kind e) : Avoids kind outcome ↔ ∃ a, outcome = .ok a := by
  cases outcome <;> simp [all]

theorem avoids_mapError_iff {kind : δ → Prop} {f : ε → δ} :
    Avoids kind (outcome.mapError f) ↔ Avoids (fun e => kind (f e)) outcome := by
  cases outcome <;> simp [Except.mapError]

/-- Steps one after another avoid what each of them avoids that is come to. -/
theorem avoids_bind_iff {f : α → Except ε β} : Avoids kind (outcome >>= f) ↔
    Avoids kind outcome ∧ ∀ a, outcome = .ok a → Avoids kind (f a) := by
  cases outcome with
  | error e => simp [bind, Except.bind]
  | ok a => simp [bind, Except.bind]

theorem exists_error_of_not_avoids (meets : ¬ Avoids kind outcome) :
    ∃ e, kind e ∧ outcome = .error e := by
  simpa [Avoids, and_comm] using meets

end Avoids

end ImportPolicy
