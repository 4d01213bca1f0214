import ImportPolicy.Text.Table
import Mathlib.Data.List.Basic

/-! # Tables that list every key once

What is written into a table is found there whatever the table was written from, as long as no key
stands in it twice. Writing never makes a key stand twice.

* `Table.nodup_keys_update` — every key stands once in a table that was written key by key.
* `Table.forall_mem_update` — what holds of all entries of two tables.
* `Table.find?_reverse` — which of a key's entries is looked at makes no difference.
* `Table.update_update` — writing a table that was written itself. -/

namespace ImportPolicy.Table

variable {α : Type} {t other : Table α} {key k : Text} {a : α}

theorem keys_put (t : Table α) (key : Text) (a : α) :
    (t.put key a).keys = if key ∈ t.keys then t.keys else t.keys ++ [key] := by
  induction t with
  | nil => rfl
  | cons entry rest inductionHypothesis =>
    obtain ⟨k, b⟩ := entry
    by_cases same : k = key
    · simp [put, keys, same]
    · simp only [keys] at inductionHypothesis
      by_cases listed : key ∈ rest.map (·.1) <;>
        simp [put, keys, same, Ne.symm same, inductionHypothesis, listed]

theorem nodup_keys_nil : (keys ([] : Table α)).Nodup := List.nodup_nil

theorem nodup_keys_put (nodup : t.keys.Nodup) (key : Text) (a : α) : (t.put key a).keys.Nodup := by
  rw [keys_put]
  split
  · exact nodup
  next new => simpa [List.nodup_append, nodup] using fun k listed => ne_of_mem_of_not_mem listed new

theorem nodup_keys_update (nodup : t.keys.Nodup) (other : Table α) :
    (t.update other).keys.Nodup := by
  induction other generalizing t with
  | nil => exact nodup
  | cons entry rest inductionHypothesis =>
    exact inductionHypothesis (nodup_keys_put nodup entry.1 entry.2)

theorem forall_mem_put {P : Text × α → Prop} (all : ∀ e ∈ t, P e) (new : P (key, a)) :
    ∀ e ∈ t.put key a, P e := by
  induction t with
  | nil => exact List.forall_mem_cons.2 ⟨new, all⟩
  | cons entry rest inductionHypothesis =>
    obtain ⟨k, b⟩ := entry
    rw [List.forall_mem_cons] at all
    rw [put]
    split
    next same => exact List.forall_mem_cons.2 ⟨same ▸ new, all.2⟩
    next => exact List.forall_mem_cons.2 ⟨all.1, inductionHypothesis all.2⟩

theorem forall_mem_update {P : Text × α → Prop} (all : ∀ e ∈ t, P e) (new : ∀ e ∈ other, P e) :
    ∀ e ∈ t.update other, P e := by
  induction other generalizing t with
  | nil => exact all
  | cons entry rest inductionHypothesis =>
    rw [List.forall_mem_cons] at new
    exact inductionHypothesis (forall_mem_put all new.1) new.2

theorem find?_eq_none_of_not_mem (new : key ∉ t.keys) : t.find? key = none := by
  induction t with
  | nil => rfl
  | cons entry rest inductionHypothesis =>
    obtain ⟨k, b⟩ := entry
    simp only [keys, List.map_cons, List.mem_cons, not_or] at new
    rw [find?, if_neg (Ne.symm new.1)]
    exact inductionHypothesis new.2

theorem mem_keys_iff : key ∈ t.keys ↔ ∃ a, t.find? key = some a := by
  constructor
  · intro listed
    induction t with
    | nil => cases listed
    | cons entry rest inductionHypothesis =>
      obtain ⟨k, b⟩ := entry
      by_cases same : k = key
      · exact ⟨b, by simp [find?, same]⟩
      · have later : key ∈ keys rest := by simpa [keys, Ne.symm same] using listed
        simpa [find?, same] using inductionHypothesis later
  · rintro ⟨a, found⟩
    by_contra new
    rw [find?_eq_none_of_not_mem new] at found
    cases found

theorem find?_of_mem (nodup : t.keys.Nodup) (listed : (key, a) ∈ t) : t.find? key = some a := by
  induction t with
  | nil => cases listed
  | cons entry rest inductionHypothesis =>
    obtain ⟨k, b⟩ := entry
    obtain ⟨new, nodup⟩ := List.nodup_cons.1 nodup
    rcases List.mem_cons.1 listed with first | later
    · cases first
      exact if_pos rfl
    · have other : k ≠ key := by
        rintro rfl
        exact new (List.mem_map.2 ⟨_, later, rfl⟩)
      rw [find?, if_neg other]
      exact inductionHypothesis nodup later

theorem find?_reverse (nodup : t.keys.Nodup) (key : Text) :
    find? t.reverse key = t.find? key := by
  induction t with
  | nil => rfl
  | cons entry rest inductionHypothesis =>
    obtain ⟨k, b⟩ := entry
    obtain ⟨new, nodup⟩ := List.nodup_cons.1 nodup
    rw [List.reverse_cons, find?_append, inductionHypothesis nodup]
    by_cases same : k = key
    · have absent : find? rest key = none := find?_eq_none_of_not_mem (same ▸ new)
      simp [find?, same, absent]
    · simp [find?, same]

/-! ## Writing a table that was written itself -/

theorem put_put_self (t : Table α) (key : Text) (a b : α) :
    (t.put key a).put key b = t.put key b := by
  induction t with
  | nil => simp [put]
  | cons entry rest inductionHypothesis =>
    obtain ⟨k, c⟩ := entry
    by_cases same : k = key <;> simp [put, same, inductionHypothesis]

/-- A key that is there keeps its place, so other keys may be written before it or after it. -/
theorem put_put_of_mem (listed : key ∈ t.keys) (other : k ≠ key) (a b : α) :
    (t.put k b).put key a = (t.put key a).put k b := by
  induction t with
  | nil => cases listed
  | cons entry rest inductionHypothesis =>
    obtain ⟨j, c⟩ := entry
    by_cases here : j = key
    · subst here
      simp [put, Ne.symm other]
    · have later : key ∈ keys rest := by
        simpa [keys, Ne.symm here] using listed
      by_cases there : j = k
      · subst there
        simp [put, other]
      · simp [put, here, there, inductionHypothesis later]

theorem mem_keys_put : k ∈ (t.put key a).keys ↔ k = key ∨ k ∈ t.keys := by
  rw [keys_put]
  split
  next listed =>
    refine ⟨.inr, fun h => ?_⟩
    rcases h with rfl | h
    · exact listed
    · exact h
  next => simp [or_comm]

theorem put_update_of_not_mem (listed : key ∈ t.keys) (new : key ∉ other.keys) (a : α) :
    (t.update other).put key a = (t.put key a).update other := by
  induction other generalizing t with
  | nil => rfl
  | cons entry rest inductionHypothesis =>
    obtain ⟨k, b⟩ := entry
    simp only [keys, List.map_cons, List.mem_cons, not_or] at new
    change (update (t.put k b) rest).put key a = update ((t.put key a).put k b) rest
    rw [inductionHypothesis (mem_keys_put.2 (.inr listed)) new.2,
      put_put_of_mem listed (Ne.symm new.1)]

theorem put_update (nodup : other.keys.Nodup) (t : Table α) (key : Text) (a : α) :
    (t.update other).put key a = t.update (other.put key a) := by
  induction other generalizing t with
  | nil => rfl
  | cons entry rest inductionHypothesis =>
    obtain ⟨k, b⟩ := entry
    obtain ⟨new, nodup⟩ := List.nodup_cons.1 nodup
    by_cases same : k = key
    · subst same
      have step : put ((k, b) :: rest) k a = (k, a) :: rest := by simp [put]
      rw [step]
      change (update (t.put k b) rest).put k a = update (t.put k a) rest
      rw [put_update_of_not_mem (mem_keys_put.2 (.inl rfl)) new, put_put_self]
    · have step : put ((k, b) :: rest) key a = (k, b) :: put rest key a := by simp [put, same]
      rw [step]
      exact inductionHypothesis nodup (t.put k b)

/-- Writing a table that was written into another one writes first the one and then the other. -/
theorem update_update (nodup : other.keys.Nodup) (t last : Table α) :
    t.update (other.update last) = (t.update other).update last := by
  induction last generalizing other with
  | nil => rfl
  | cons entry rest inductionHypothesis =>
    change t.update ((other.put entry.1 entry.2).update rest) =
      ((t.update other).put entry.1 entry.2).update rest
    rw [inductionHypothesis (nodup_keys_put nodup _ _), put_update nodup]

theorem put_of_not_mem (new : key ∉ t.keys) (a : α) : t.put key a = t ++ [(key, a)] := by
  induction t with
  | nil => rfl
  | cons entry rest inductionHypothesis =>
    obtain ⟨k, b⟩ := entry
    simp only [keys, List.map_cons, List.mem_cons, not_or] at new
    simp [put, Ne.symm new.1, inductionHypothesis new.2]

theorem update_eq_append (nodup : (keys (t ++ other)).Nodup) : t.update other = t ++ other := by
  induction other generalizing t with
  | nil => exact (List.append_nil t).symm
  | cons entry rest inductionHypothesis =>
    obtain ⟨k, a⟩ := entry
    rw [List.append_cons] at nodup ⊢
    have new : k ∉ t.keys := by
      intro listed
      rw [keys, List.map_append, List.map_append, List.nodup_append, List.nodup_append] at nodup
      exact nodup.1.2.2 k listed k (by simp) rfl
    change (t.put k a).update rest = _
    rw [put_of_not_mem new, inductionHypothesis nodup]

/-- A table that lists every key once is what it writes into an empty one. -/
theorem update_nil_left (nodup : t.keys.Nodup) : update [] t = t :=
  update_eq_append (t := []) nodup

end ImportPolicy.Table
