import ImportPolicy.Proofs.Text.Tables
import ImportPolicy.Proofs.Traversals
import ImportPolicy.Snapshot.Basic
import Mathlib.Data.List.Nodup

/-! # What a summary counts

* `Summary.Counts` — a summary is right about some issues.
* `Summary.counts_ofIssues` — the summary of issues is.
* `Summary.bySeverity_ofIssues` — its table of severities, entry by entry. -/

namespace ImportPolicy.Summary

variable {m : Summary} {issues : List Issue}

/-- The number of issues that carry something, as a table of counts holds it: no entry for none. -/
def tally (carries : Issue → Bool) (issues : List Issue) : Option Int :=
  if issues.countP carries = 0 then none else some (issues.countP carries)

/-- A summary has the number of issues, and under each severity and each rule that some of them
    carry the number of those that do. -/
structure Counts (m : Summary) (issues : List Issue) : Prop where
  total : m.total = issues.length
  bySeverity : ∀ key,
    m.bySeverity.find? key = tally (fun i => Text.ofString i.severity.name = key) issues
  byRule : ∀ key, m.byRule.find? key = tally (fun i => i.ruleId = key) issues

theorem getD_tally (carries : Issue → Bool) (issues : List Issue) :
    (tally carries issues).getD 0 = issues.countP carries := by
  unfold tally
  split
  next none => simp [none]
  · rfl

theorem tally_eq_some_iff {carries : Issue → Bool} {n : Int} :
    tally carries issues = some n ↔ n = issues.countP carries ∧ ∃ i ∈ issues, carries i = true := by
  rw [tally, ← List.countP_pos_iff]
  split
  next none => simp [none]
  next some => simpa [eq_comm (a := n)] using fun _ => Nat.pos_of_ne_zero some

/-- One more issue adds one to the count under its key. -/
theorem find?_bump {counts : Table Int} {keyOf : Issue → Text}
    (counted : ∀ key, counts.find? key = tally (fun i => keyOf i = key) issues) (i : Issue)
    (key : Text) :
    (bump counts (keyOf i)).find? key = tally (fun j => keyOf j = key) (issues ++ [i]) := by
  rw [bump, Table.find?_put, counted, counted, getD_tally]
  by_cases same : keyOf i = key
  · subst same
    simp [tally, List.countP_append]
  · simp [tally, List.countP_append, same]

theorem Counts.count (counts : m.Counts issues) (i : Issue) :
    (m.count i).Counts (issues ++ [i]) where
  total := by simp [Summary.count, counts.total]
  bySeverity := find?_bump counts.bySeverity i
  byRule := find?_bump counts.byRule i

theorem Counts.foldl (counts : m.Counts issues) (more : List Issue) :
    (more.foldl Summary.count m).Counts (issues ++ more) := by
  induction more generalizing m issues with
  | nil => simpa using counts
  | cons i more inductionHypothesis =>
    rw [List.append_cons]
    exact inductionHypothesis (counts.count i)

theorem counts_ofIssues (issues : List Issue) : (ofIssues issues).Counts issues := by
  have none : Counts ⟨0, [], []⟩ [] := ⟨rfl, fun _ => rfl, fun _ => rfl⟩
  exact none.foldl issues

theorem nodup_keys_bySeverity (issues : List Issue) : (ofIssues issues).bySeverity.keys.Nodup := by
  have nodup (m : Summary) (start : m.bySeverity.keys.Nodup) :
      (issues.foldl Summary.count m).bySeverity.keys.Nodup := by
    induction issues generalizing m with
    | nil => exact start
    | cons i rest inductionHypothesis =>
      exact inductionHypothesis (m.count i) (Table.nodup_keys_put start _ _)
  exact nodup _ Table.nodup_keys_nil

theorem name_injective : Function.Injective fun severity : Severity =>
    Text.ofString severity.name := by
  intro severity other same
  simpa [Severity.ofName?_name] using congrArg Severity.ofName? same

/-- A severity with the number of issues that have it. -/
def severityEntry (issues : List Issue) (severity : Severity) : Text × Int :=
  (Text.ofString severity.name, issues.countP fun i => i.severity = severity)

/-- The table has one entry for each severity that an issue has, with the number of issues that have
    it. -/
theorem bySeverity_ofIssues (issues : List Issue) : ∃ order : List Severity, order.Nodup ∧
    (∀ severity, severity ∈ order ↔ ∃ i ∈ issues, i.severity = severity) ∧
    (ofIssues issues).bySeverity = order.map (severityEntry issues) := by
  have nodup := nodup_keys_bySeverity issues
  have counts := (counts_ofIssues issues).bySeverity
  generalize (ofIssues issues).bySeverity = table at nodup counts ⊢
  have carried (severity : Severity) :
      (issues.countP fun i => Text.ofString i.severity.name = Text.ofString severity.name) =
        issues.countP fun i => i.severity = severity := by
    simp only [name_injective.eq_iff]
  -- An entry stands for a severity, since a key that none of the issues has is not there.
  have entry : ∀ e ∈ table, ∃ severity, e = severityEntry issues severity := by
    rintro ⟨key, n⟩ listed
    have found := Table.find?_of_mem nodup listed
    rw [counts, tally_eq_some_iff] at found
    obtain ⟨rfl, i, -, named⟩ := found
    obtain rfl := of_decide_eq_true named
    exact ⟨i.severity, by rw [severityEntry, carried]⟩
  obtain ⟨order, related⟩ := exists_forall₂_iff.2 entry
  have whole : table = order.map (severityEntry issues) := by
    simpa using @map_eq_map_of_forall₂ _ _ _ id (severityEntry issues) table order related
  have keys : table.keys = order.map fun severity => Text.ofString severity.name := by
    rw [whole, Table.keys, List.map_map]
    rfl
  refine ⟨order, List.Nodup.of_map _ (keys ▸ nodup), fun severity => ?_, whole⟩
  rw [← List.mem_map_of_injective name_injective, ← keys, Table.mem_keys_iff]
  simp only [counts, tally_eq_some_iff, exists_eq_left, decide_eq_true_eq, name_injective.eq_iff]

end ImportPolicy.Summary
