import ImportPolicy.Proofs.Report.Lossless

/-! # Which snapshots can be reported

A lone surrogate has no bytes in UTF-8, and JSON writes it as it is. A snapshot therefore has a report
exactly if none of its texts holds one.

* `Snapshot.isEncodable_toValue_iff` — the texts that the value of a snapshot holds.
* `Snapshot.report?_eq_none_iff`, `Snapshot.reportBytes?_eq_none_iff` — the snapshots without a
  report. -/

namespace ImportPolicy

/-! ## Values of records -/

namespace Value

theorem isEncodable_str (t : Text) : (Value.str t).isEncodable = t.isScalar := rfl

theorem isEncodable_int (i : Int) : (Value.int i).isEncodable = true := rfl

theorem isEncodable_record (fields : List (String × Value)) :
    (record fields).isEncodable = fields.all fun f => f.2.isEncodable := by
  rw [record, isEncodable, areEncodableEntries_eq, List.all_map]
  refine congrArg fields.all (funext fun f => ?_)
  rw [Function.comp_apply, isEncodable_str, Text.isScalar_ofString, Bool.true_and]

theorem isEncodable_list {α : Type} (write : α → Value) (as : List α) :
    (Value.list (as.map write)).isEncodable = as.all fun a => (write a).isEncodable := by
  rw [isEncodable, areEncodable_eq, List.all_map]
  rfl

theorem isEncodable_ofOption {α : Type} (write : α → Value) (o : Option α) :
    (ofOption write o).isEncodable = o.all fun a => (write a).isEncodable := by
  cases o <;> rfl

theorem isEncodable_counts (t : Table Int) :
    (ofTable .int t).isEncodable = t.all fun e => e.1.isScalar := by
  rw [ofTable, isEncodable, areEncodableEntries_eq, List.all_map]
  exact congrArg t.all (funext fun e => Bool.and_true _)

end Value

/-! ## Snapshots -/

open Script

section Records

open Value

theorem Script.ImportSite.isEncodable_toValue (s : ImportSite) :
    s.toValue.isEncodable = s.specifier.isScalar := by
  simp [toValue, isEncodable_record, isEncodable_str, isEncodable_int, Text.isScalar_ofString]

theorem Issue.isEncodable_toValue_iff (i : Issue) : i.toValue.isEncodable = true ↔ i.IsScalar := by
  simp only [toValue, IssueLocation.toValue, isEncodable_record, isEncodable_ofOption,
    isEncodable_list, List.all_cons, List.all_nil, isEncodable_str, isEncodable_int,
    Text.isScalar_ofString, Option.all_true, Bool.and_true, Bool.true_and, Bool.and_eq_true,
    List.all_eq_true, Option.all_eq_true]
  constructor
  · rintro ⟨id, ruleId, message, filePath, symbol, tags⟩
    exact ⟨id, ruleId, message, filePath, symbol, tags⟩
  · intro scalar
    exact ⟨scalar.id, scalar.ruleId, scalar.message, scalar.filePath, scalar.symbol, scalar.tags⟩

theorem SourceFile.isEncodable_toValue_iff (f : SourceFile) :
    f.toValue.isEncodable = true ↔ f.IsScalar := by
  simp only [toValue, isEncodable_record, isEncodable_list, List.all_cons, List.all_nil,
    isEncodable_str, Script.ImportSite.isEncodable_toValue, Bool.and_true, Bool.and_eq_true,
    List.all_eq_true, Issue.isEncodable_toValue_iff]
  constructor
  · rintro ⟨path, language, imports, issues⟩
    exact ⟨path, language, imports, issues⟩
  · intro scalar
    exact ⟨scalar.path, scalar.language, scalar.imports, scalar.issues⟩

theorem Summary.isEncodable_toValue_iff (s : Summary) :
    s.toValue.isEncodable = true ↔ s.IsScalar := by
  simp only [toValue, isEncodable_record, isEncodable_counts, List.all_cons, List.all_nil,
    isEncodable_int, Bool.and_true, Bool.true_and, Bool.and_eq_true, List.all_eq_true]
  constructor
  · rintro ⟨bySeverity, byRule⟩
    exact ⟨bySeverity, byRule⟩
  · intro scalar
    exact ⟨scalar.bySeverity, scalar.byRule⟩

theorem ScanRecord.isEncodable_toValue_iff (r : ScanRecord) :
    r.toValue.isEncodable = true ↔ r.IsScalar := by
  simp only [toValue, isEncodable_record, List.all_cons, List.all_nil, isEncodable_str,
    isEncodable_int, Moment.isScalar_stamp, Bool.and_true, Bool.true_and, Bool.and_eq_true]
  constructor
  · rintro ⟨projectName, root, toolVersion⟩
    exact ⟨projectName, root, toolVersion⟩
  · intro scalar
    exact ⟨scalar.projectName, scalar.root, scalar.toolVersion⟩

/-- The value of a snapshot holds its texts, and what else it holds is spelt in characters. -/
theorem Snapshot.isEncodable_toValue_iff (s : Snapshot) :
    s.toValue.isEncodable = true ↔ s.IsScalar := by
  simp only [toValue, isEncodable_record, isEncodable_list, isEncodable_ofOption, List.all_cons,
    List.all_nil, Bool.and_true, Bool.and_eq_true, List.all_eq_true, Option.all_eq_true,
    ScanRecord.isEncodable_toValue_iff, SourceFile.isEncodable_toValue_iff,
    Summary.isEncodable_toValue_iff]
  constructor
  · rintro ⟨scan, files, summary⟩
    exact ⟨scan, files, summary⟩
  · intro scalar
    exact ⟨scalar.scan, scalar.files, scalar.summary⟩

end Records

namespace Snapshot

variable {s : Snapshot}

/-- A snapshot has no report exactly if a text of it holds a lone surrogate. -/
theorem report?_eq_none_iff : s.report? = none ↔ ¬ s.IsScalar := by
  have wellFormed : (Json.render 0 s.toValue).isWellFormed = true ↔ s.IsScalar := by
    rw [← isEncodable_toValue_iff, ← Json.isScalar_render 0]
    rfl
  rw [report?, ← wellFormed]
  split
  next held => exact iff_of_false (Option.some_ne_none _) (not_not_intro held)
  next held => exact iff_of_true rfl held

theorem reportBytes?_eq_none_iff : s.reportBytes? = none ↔ ¬ s.IsScalar := by
  rw [← report?_eq_none_iff, reportBytes?, report?]
  split
  next held =>
    -- A text without lone surrogates has bytes.
    obtain ⟨cs, written⟩ := Text.exists_ofChars held
    rw [written, Option.bind_some, Text.bytes?, Text.chars?_ofChars]
    exact iff_of_false (Option.some_ne_none _) (Option.some_ne_none _)
  next => exact iff_of_true rfl rfl

end Snapshot

end ImportPolicy
