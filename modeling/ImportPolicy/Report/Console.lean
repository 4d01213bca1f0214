import ImportPolicy.Snapshot.Basic
import ImportPolicy.Text.Case

/-! # Console report

* `Console.lines` — the lines of a report, with colors.
* `Console.plain` — a line without its colors. -/

namespace ImportPolicy.Console

/-- The start of a control sequence of a terminal. -/
def escape : CodePoint := .scalar '\x1b'

/-- The number of the color of a severity. -/
def color : Severity → String
  | .error => "31"
  | .warning => "33"
  | .info => "34"

/-- A text in a color. -/
def colored (number : String) (t : Text) : Text :=
  [escape] ++ "[" ++ Text.ofString number ++ "m" ++ t ++ [escape] ++ "[0m"

/-- The place of an issue in a file: its line, and its column if there is one. -/
def place (file : SourceFile) (i : Issue) : Text :=
  file.path ++ ":" ++ Text.ofInt i.location.line ++
    match i.location.column with
    | some column => if column = 0 then [] else ":" ++ Text.ofInt column
    | none => []

/-- The line of an issue. -/
def issueLine (file : SourceFile) (i : Issue) : Text :=
  "[" ++ colored (color i.severity) (Text.ofString i.severity.name).upper ++ "] " ++
    place file i ++ " - " ++ i.message ++ " (" ++ i.ruleId ++ ")"

/-- A line of dashes. -/
def ruler : Text := List.replicate 40 (.scalar '-')

/-- The lines about the counts of issues. -/
def summaryLines : Option Summary → List Text
  | some s =>
    ("Total Issues: " ++ Text.ofInt s.total) ::
      s.bySeverity.map fun e => "  " ++ e.1.upper ++ ": " ++ Text.ofInt e.2
  | none => ["No issues summary available."]

/-- The lines of a report. -/
def lines (s : Snapshot) : List Text :=
  (s.files.flatMap fun f => f.issues.map (issueLine f)) ++
    [ruler, "Project: " ++ s.scan.projectName,
      "Files Scanned: " ++ Text.ofNat s.files.length] ++
    summaryLines s.summary ++ [ruler]

/-- Whether a code point can stand between the bracket and the letter of a control sequence. -/
def isParameter (c : CodePoint) : Bool :=
  match c with
  | .scalar c => c = ';' || c = '?' || ('0' ≤ c && c ≤ '9')
  | .surrogate _ => false

/-- Whether a code point is an ASCII letter. -/
def isLetter (c : CodePoint) : Bool :=
  match c with
  | .scalar c => ('a' ≤ c && c ≤ 'z') || ('A' ≤ c && c ≤ 'Z')
  | .surrogate _ => false

/-- The text after a control sequence that it starts with. -/
def afterControl? : Text → Option Text
  | e :: bracket :: rest =>
    if e = escape ∧ bracket = .scalar '[' then
      match rest.dropWhile isParameter with
      | letter :: more => if isLetter letter then some more else none
      | [] => none
    else none
  | _ => none

theorem length_afterControl? {t rest : Text} (h : afterControl? t = some rest) :
    rest.length < t.length := by
  unfold afterControl? at h
  split at h
  · next e bracket tail =>
    split at h
    · split at h
      · next letter more heq =>
        split at h
        · simp only [Option.some.injEq] at h
          subst h
          have := (List.dropWhile_sublist isParameter (l := tail)).length_le
          rw [heq] at this
          simp only [List.length_cons] at this ⊢
          omega
        · simp at h
      · simp at h
    · simp at h
  · simp at h

/-- A text without its control sequences. -/
def plain (t : Text) : Text :=
  match _h : afterControl? t with
  | some rest => plain rest
  | none =>
    match t with
    | [] => []
    | c :: rest => c :: plain rest
termination_by t.length
decreasing_by
  · exact length_afterControl? _h
  · simp

end ImportPolicy.Console
