import ImportPolicy.Scan.Pattern
import ImportPolicy.Text.Basic
import ImportPolicy.Text.Blank
import ImportPolicy.Text.Lines

/-! # Rules for ignored files

Each line of an ignore file is a rule or says nothing. A pattern with a slash before its end holds
from the scanned directory on, any other one from each directory. A slash at the end asks for a
directory, and an exclamation mark at the start takes files back in.

* `IgnoreRule` — the pattern of a line and where it holds.
* `IgnoreRule.ofLine` — the rule that a line states.
* `IgnoreRule.ignored` — whether rules leave out a path. -/

namespace ImportPolicy.Scan

/-- The pattern of a line and where it holds. -/
structure IgnoreRule where
  pieces : List (Except PatternError Piece)
  anchored : Bool
  directoryOnly : Bool
  negated : Bool

namespace IgnoreRule

/-! ## Reading lines -/

/-- The text with at most `room` stars at its start, and further on at most two stars behind a slash
    and one behind anything else. -/
def joinStarsFrom (room : Nat) : List Char → List Char
  | [] => []
  | '*' :: rest =>
    match room with
    | 0 => joinStarsFrom 0 rest
    | room + 1 => '*' :: joinStarsFrom room rest
  | '/' :: rest => '/' :: joinStarsFrom 2 rest
  | c :: rest => c :: joinStarsFrom 1 rest

/-- The text with two stars in a row only where slashes or its ends are on both sides, and never
    more. -/
def joinStars (cs : List Char) : List Char :=
  (joinStarsFrom 2 (joinStarsFrom 2 cs).reverse).reverse

/-- The text without blanks at its end, where a backslash before a blank keeps it and all before
    it. The text is given backwards; its first two characters stay. -/
def dropEndBlanks (dropping : Bool) (kept : List Char) : List Char → List Char
  | ' ' :: b :: c :: rest =>
    if b = '\\' then dropEndBlanks false (' ' :: kept) (c :: rest)
    else dropEndBlanks dropping (if dropping then kept else ' ' :: kept) (b :: c :: rest)
  | cs => cs.reverse ++ kept

/-- A text whose first character is needed. -/
def nonempty (cs : List Char) : Except PatternError (List Char) :=
  if cs.isEmpty then .error .empty else .ok cs

/-- The text without a slash at its start. -/
def dropSlash : List Char → List Char
  | '/' :: rest => rest
  | cs => cs

/-- Whether a text is blank. -/
def isBlank (cs : List Char) : Bool := cs.all fun c => (CodePoint.scalar c).isBlank

/-- The rule of a pattern that is not blank. -/
def ofPattern (negated : Bool) (cs : List Char) : Except PatternError (Option IgnoreRule) := do
  let cs := joinStars cs
  if cs.head? = some '/' ∧ isBlank (cs.drop 1) then return none
  let cs ← nonempty cs
  -- Where the pattern holds is read off before slashes are taken away.
  let directoryOnly := cs.getLast? = some '/'
  let anchored := '/' ∈ cs.dropLast
  let cs ← nonempty (dropSlash cs)
  let (cs, anchored) := match cs with
    -- Two stars at the start stand for any directories, the first one included.
    | '*' :: '*' :: rest => (rest, false)
    | _ => (cs, anchored)
  let cs ← nonempty (dropSlash (← nonempty cs))
  let cs ← nonempty (if cs.getLast? = some '/' then cs.dropLast else cs)
  let cs ← match cs with
    -- A backslash keeps the mark behind it from being read as one.
    | ['\\'] => throw .empty
    | '\\' :: '#' :: rest => pure ('#' :: rest)
    | '\\' :: '!' :: rest => pure ('!' :: rest)
    | _ => pure cs
  let pieces := Piece.ofGlob (dropEndBlanks true [] cs.reverse)
  -- A class that makes no sense is told only when the rule is asked for a path.
  if pieces.any fun p => match p with
    | .error .empty => true
    | _ => false
  then throw .empty
  return some ⟨pieces, anchored, directoryOnly, negated⟩

/-- The rule that a line states. Blank lines and comments state none. -/
def ofLine (cs : List Char) : Except PatternError (Option IgnoreRule) :=
  if isBlank cs then .ok none
  else match cs with
    | '#' :: _ => .ok none
    | '!' :: rest => ofPattern true rest
    | _ => ofPattern false cs

/-- The rules that the lines of a file state. -/
def ofLines (cs : List Char) : Except PatternError (List IgnoreRule) :=
  return (← (Text.lines cs).mapM ofLine).filterMap id

/-! ## Matching -/

/-- Whether a text is at its end, where one line feed may follow. -/
def atEnd (cs : List Char) : Bool := cs = [] || cs = ['\n']

/-- Whether a path may go on like this behind the pattern. -/
def isEnding (r : IgnoreRule) (cs : List Char) : Bool :=
  if r.directoryOnly && r.negated then cs.head? = some '/' && atEnd (cs.drop 1)
  else atEnd cs || (r.directoryOnly && cs.head? = some '/')

/-- The rests of a path where the pattern may start. -/
def startings (r : IgnoreRule) (path : List Char) : List (List Char) :=
  if r.anchored then [path]
  else path :: Piece.restsBehindSlash (fun _ => true) path

/-- Whether a rule holds for a path. -/
def holds (r : IgnoreRule) (path : List Char) : Except PatternError Bool := do
  let pieces ← r.pieces.mapM id
  return (r.startings path).any (Piece.matchAll r.isEnding pieces)

/-- What the first rule that holds says. -/
def verdict (path : List Char) : List IgnoreRule → Except PatternError Bool
  | [] => .ok false
  | r :: rest => do if ← r.holds path then return !r.negated else verdict path rest

/-- Whether rules leave out a path. The last rule that holds decides. -/
def ignored (rules : List IgnoreRule) (path : List Char) : Except PatternError Bool :=
  verdict path (if rules.any (·.negated) then rules.reverse else rules)

end IgnoreRule

end ImportPolicy.Scan
