import ImportPolicy.Number.Bounds
import ImportPolicy.Value.Display

/-! # Problems of data

What is wrong with data that does not fit its description, and where.

* `Complaint` — the ways in which a value can fail to be what is asked for.
* `Problem` — a complaint with the place it is about.
* `Problem.report` — the text that lists all problems of a model. -/

namespace ImportPolicy.Schema

/-- What is wrong with a value. -/
inductive Complaint where
  | missing
  | modelExpected (model : String)
  | truthExpected
  | truthUnclear
  | integerExpected
  | integerUnclear
  | integerHasFraction
  | integerTooLong
  | finiteExpected
  | textExpected
  | textUndecodable
  | listExpected
  | mappingExpected
  | choiceExpected (choices : List String)
  | momentExpected
  | momentUnclear (reason : String)
  | dateUnclear (reason : String)
  deriving DecidableEq

namespace Complaint

/-- Quoted names with commas between them and `or` before the last. -/
def alternatives : List String → Text
  | [] => []
  | [name] => (Text.ofString name).quoted
  | [name, last] => (Text.ofString name).quoted ++ " or " ++ (Text.ofString last).quoted
  | name :: names => (Text.ofString name).quoted ++ ", " ++ alternatives names

/-- The wording of a complaint. -/
def message : Complaint → Text
  | .missing => "Field required"
  | .modelExpected model => "Input should be a valid dictionary or instance of " ++ Text.ofString model
  | .truthExpected => "Input should be a valid boolean"
  | .truthUnclear => "Input should be a valid boolean, unable to interpret input"
  | .integerExpected => "Input should be a valid integer"
  | .integerUnclear => "Input should be a valid integer, unable to parse string as an integer"
  | .integerHasFraction => "Input should be a valid integer, got a number with a fractional part"
  | .integerTooLong => "Unable to parse input string as an integer, exceeded maximum size"
  | .finiteExpected => "Input should be a finite number"
  | .textExpected => "Input should be a valid string"
  | .textUndecodable =>
    "Input should be a valid string, unable to parse raw data as a unicode string"
  | .listExpected => "Input should be a valid list"
  | .mappingExpected => "Input should be a valid dictionary"
  | .choiceExpected choices => "Input should be " ++ alternatives choices
  | .momentExpected => "Input should be a valid datetime"
  | .momentUnclear reason => "Input should be a valid datetime, " ++ Text.ofString reason
  | .dateUnclear reason => "Input should be a valid datetime or date, " ++ Text.ofString reason

end Complaint

/-- One step on the way to a value inside other values. -/
inductive Step where
  | name (t : Text)
  | index (i : Int)
  deriving DecidableEq

namespace Step

/-- The step to a value at a key of a mapping: integers are indexes, and other keys that are no
    texts are named by their display. -/
def ofKey : Value → Step
  | .str t => .name t
  | .int i => if -Bounds.int64 ≤ i ∧ i < Bounds.int64 then .index i else .name (Text.ofInt i)
  | .bool b => .index (if b then 1 else 0)
  | key => .name key.display

/-- The step from a key of a mapping to the key itself. -/
def keyItself : Step := .name "[key]"

/-- A code point of a name; half a surrogate pair shows as three replacement characters, one for
    each byte that does not decode. -/
def namePoint : CodePoint → Text
  | .scalar c => [.scalar c]
  | .surrogate _ => List.replicate 3 (.scalar '\uFFFD')

/-- The wording of a step; a name with a point in it stands between grave accents. -/
def spell : Step → Text
  | .name t =>
    let shown := t.flatMap namePoint
    if .scalar '.' ∈ shown then "\x60" ++ shown ++ "\x60" else shown
  | .index i => Text.ofInt i

end Step

/-- A complaint about the value at the end of a path. -/
structure Problem where
  path : List Step
  complaint : Complaint
  deriving DecidableEq

namespace Problem

/-- The problem seen from one step further out. -/
def under (step : Step) (p : Problem) : Problem := { p with path := step :: p.path }

/-- The path on a line of its own, if there is one, and the complaint on an indented line. -/
def describe (p : Problem) : Text :=
  (if p.path.isEmpty then [] else Text.joinWith "." (p.path.map Step.spell) ++ "\n") ++
    "  " ++ p.complaint.message

/-- All problems of a model under a heading that counts them. -/
def report (model : String) (problems : List Problem) : Text :=
  Text.ofNat problems.length ++ " validation error" ++ (if problems.length = 1 then "" else "s") ++
    " for " ++ Text.ofString model ++ "\n" ++
    Text.joinWith "\n" (problems.map describe)

end Problem

end ImportPolicy.Schema
