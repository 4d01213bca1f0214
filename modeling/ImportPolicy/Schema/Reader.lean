import ImportPolicy.Number.Bounds
import ImportPolicy.Schema.Checked
import ImportPolicy.Text.Blank
import ImportPolicy.Text.Table
import ImportPolicy.Text.Utf8
import ImportPolicy.Value.Instant

/-! # Readers of data

Descriptions of the data that a value has to hold. Truth values, integers and points in time may be
written in several ways; texts and lists only as what they are.

* `Reader.truth`, `Reader.integer`, `Reader.text`, `Reader.moment`, `Reader.choice` — single data.
* `Reader.list`, `Reader.table`, `Reader.optional` — data made of data.
* `Reader.model` — data made of named fields, read by `required` and `defaulted`. -/

namespace ImportPolicy.Schema

/-- A description of data: what it reads from a value. -/
abbrev Reader (α : Type) := Value → Checked α

namespace Reader

variable {α : Type}

/-! ## Texts -/

/-- The text of a string, or of bytes that encode one. -/
def lenientText? : Value → Option (Option Text)
  | .str t => some (some t)
  | .bytes bs => some ((Utf8.decode? bs).map Text.ofChars)
  | _ => none

/-- A text. -/
def text : Reader Text := fun v =>
  match lenientText? v with
  | some (some t) => .ok t
  | some none => .complain .textUndecodable
  | none => .complain .textExpected

/-- One of several names. -/
def choice (names : List String) (find : Text → Option α) : Reader α := fun v =>
  match v.text?.bind find with
  | some a => .ok a
  | none => .complain (.choiceExpected names)

/-! ## Truth values -/

/-- The words for false and true. -/
def truthWord? (t : Text) : Option Bool :=
  let lowered := t.map fun c => match c with
    | .scalar c => CodePoint.scalar c.toLower
    | c => c
  if lowered ∈ ["0", "f", "n", "no", "off", "false"].map Text.ofString then some false
  else if lowered ∈ ["1", "t", "y", "on", "yes", "true"].map Text.ofString then some true
  else none

/-- Zero and one as truth values. -/
def truthOfInt (i : Int) : Checked Bool :=
  if i = 0 then .ok false else if i = 1 then .ok true else .complain .truthUnclear

/-- A truth value: itself, zero or one, or one of the words for it. -/
def truth : Reader Bool
  | .bool b => .ok b
  | .int i => if -Bounds.int64 ≤ i ∧ i < Bounds.int64 then truthOfInt i else .complain .truthExpected
  | .float x =>
    match x.toInt? with
    | some i => if -Bounds.int64 < i ∧ i < Bounds.int64 then truthOfInt i else .complain .truthExpected
    | none => .complain .truthExpected
  | v =>
    match lenientText? v with
    | some (some t) =>
      match truthWord? t with
      | some b => .ok b
      | none => .complain .truthUnclear
    | some none => .complain .truthUnclear
    | none => .complain .truthExpected

/-! ## Integers -/

/-- White space around a number; the information separators do not count. -/
def isSpacing (c : CodePoint) : Bool := c.isBlank && !(0x1C ≤ c.toNat && c.toNat ≤ 0x1F)

/-- The text without leading zeros and single underscores among them; a zero stays before a point
    or the end. Only a digit or a minus sign can start a number. -/
def dropZeros? : List Char → Option (List Char)
  | [] => none
  | '0' :: cs => go '0' cs
  | c :: cs => if c = '-' ∨ ('1' ≤ c ∧ c ≤ '9') then some (c :: cs) else none
where
  go (last : Char) : List Char → Option (List Char)
    | [] => some [last]
    | c :: cs =>
      if c = '0' then go '0' cs
      else if c = '_' ∧ last = '0' then go '_' cs
      else if '1' ≤ c ∧ c ≤ '9' then some (c :: cs)
      else if c = '.' then some (last :: c :: cs)
      else none

/-- The text without a fraction of zeros. -/
def dropFraction (cs : List Char) : List Char :=
  match cs.dropWhile (· ≠ '.') with
  | _ :: ds => if ds.all (· = '0') then cs.takeWhile (· ≠ '.') else cs
  | [] => cs

/-- The digits of a number without underscores, each of which has to stand between digits. -/
def dropUnderscores? : List Char → Option (List Char)
  | [] => some []
  | ['_'] => none
  | '_' :: '_' :: _ => none
  | '_' :: cs => dropUnderscores? cs
  | c :: cs => (dropUnderscores? cs).map (c :: ·)

/-- The number that digits without leading zeros spell. -/
def natural? : List Char → Option Nat
  | ['0'] => some 0
  | c :: cs => if '1' ≤ c ∧ c ≤ '9' then Instant.number? (c :: cs) else none
  | [] => none

/-- An integer in a text: white space around it, a sign, leading zeros after a plus sign or no
    sign, single underscores, and a fraction of zeros are allowed. -/
def integerText (t : Text) : Checked Int :=
  let unclear : Checked Int := .complain .integerUnclear
  match Text.chars? (t.strip isSpacing) with
  | none => unclear
  | some cs =>
    let unsigned := match cs with
      | '+' :: '-' :: _ => []
      | '+' :: more => more
      | _ => cs
    match (dropZeros? unsigned).map dropFraction with
    | none => unclear
    | some cs =>
      let negative := cs.head? = some '-'
      let cs := if negative then cs.drop 1 else cs
      match (if cs.head? = some '_' then none else dropUnderscores? cs) with
      | none => unclear
      | some digits =>
        match natural? digits with
        | none => unclear
        | some n =>
          if 4300 < digits.length then .complain .integerTooLong
          else .ok (if negative then -Int.ofNat n else Int.ofNat n)

/-- An integer: itself, a truth value as zero or one, a whole double, or a text of one. -/
def integer : Reader Int
  | .bool b => .ok (if b then 1 else 0)
  | .int i => .ok i
  | .float x =>
    match x.kind with
    | .finite .. =>
      match x.toInt? with
      | some i => if -Bounds.int64 < i ∧ i < Bounds.int64 then .ok i else .complain .integerTooLong
      | none => .complain .integerHasFraction
    | _ => .complain .finiteExpected
  | v =>
    match lenientText? v with
    | some (some t) => integerText t
    | some none => .complain .integerUnclear
    | none => .complain .integerExpected

/-! ## Points in time -/

/-- The outcome of reading a count of seconds. -/
def ofCount : Except String Moment → Checked Moment
  | .ok m => .ok m
  | .error reason => .complain (.momentUnclear reason)

/-- A point in time: itself, the start of a day, a text, or a count of seconds. -/
def moment : Reader Moment
  | .moment m => .ok m.toMoment
  | .date d => .ok (Moment.midnight d.toDate)
  | .int i => ofCount (Instant.ofCount i 0)
  | .float x => ofCount (Instant.ofDouble x)
  | v =>
    match lenientText? v with
    | some (some t) =>
      match Text.bytes? t with
      | some bs =>
        match Instant.ofText (bs.map fun b => Char.ofNat b.toNat) with
        | .ok m =>
          -- The year 0 can be written, but the calendar starts with the year 1.
          if m.date.year = 0 then .complain (.momentUnclear "year 0 is out of range") else .ok m
        | .error reason => .complain (.dateUnclear reason)
      | none => .complain .textUndecodable
    | _ => .complain .momentExpected

/-! ## Data made of data -/

/-- Null, or what another reader reads. -/
def optional (r : Reader α) : Reader (Option α)
  | .null => .ok none
  | v => some <$> r v

/-- The items of a list, a set or a pair. -/
def items? : Value → Option (List Value)
  | .list items => some items
  | .set members => some members
  | .pair first second => some [first, second]
  | _ => none

/-- The outcomes of items, each seen from its place in the list. -/
def listFrom (r : Reader α) (start : Nat) : List Value → List (Checked α)
  | [] => []
  | v :: vs => (r v).under (.index start) :: listFrom r (start + 1) vs

/-- A list whose items another reader reads. -/
def list (r : Reader α) : Reader (List α) := fun v =>
  match items? v with
  | some items => Checked.all (listFrom r 0 items)
  | none => .complain .listExpected

/-- A list of anything. -/
def values : Reader (List Value) := fun v =>
  match items? v with
  | some items => .ok items
  | none => .complain .listExpected

/-- One entry of a table: problems of the key come before those of the data. -/
def entry (r : Reader α) (e : Value × Value) : Checked (Text × α) :=
  Prod.mk <$> ((text e.1).under Step.keyItself).under (.ofKey e.1) <*> (r e.2).under (.ofKey e.1)

/-- A table whose data another reader reads. -/
def table (r : Reader α) : Reader (Table α) := fun v =>
  match v.mapping? with
  | some entries => (Table.update []) <$> Checked.all (entries.map (entry r))
  | none => .complain .mappingExpected

/-! ## Fields -/

/-- A mapping with named fields. -/
def model (name : String) (fields : Mapping → Checked α) : Reader α := fun v =>
  match v.mapping? with
  | some entries => fields entries
  | none => .complain (.modelExpected name)

/-- A field that has to be there. -/
def required (entries : Mapping) (name : String) (r : Reader α) : Checked α :=
  match Mapping.find? entries name with
  | some v => (r v).under (.name name)
  | none => Checked.under (.name name) (.complain .missing)

/-- A field that may be absent. -/
def defaulted (entries : Mapping) (name : String) (absent : α) (r : Reader α) : Checked α :=
  match Mapping.find? entries name with
  | some v => (r v).under (.name name)
  | none => .ok absent

end Reader

end ImportPolicy.Schema
