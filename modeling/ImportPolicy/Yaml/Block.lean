import ImportPolicy.Yaml.Cursor

/-! # Block scalars

A block scalar stands on the lines after its header, indented more than what is around it. Its
breaks are kept, or folded into spaces.

* `Block.scan` — a block scalar at a place. -/

namespace ImportPolicy.Yaml.Block

/-- What a header says of the breaks at the end of a scalar: keep one, keep none, or keep all. -/
inductive Chomping where
  | clip
  | strip
  | keep
  deriving DecidableEq

/-- The chomping that a sign asks for. -/
def chomping? : Char → Option Chomping
  | '+' => some .keep
  | '-' => some .strip
  | _ => none

/-- The indentation that a digit asks for; zero is refused. -/
def increment? (c : Char) : Option (Except Failure Nat) :=
  if '1' ≤ c ∧ c ≤ '9' then some (.ok (c.toNat - 0x30))
  else if c = '0' then some (.error .malformed)
  else none

/-- The sign and the digit of a header, in either order, and the place behind them. -/
def header (c : Cursor) : Except Failure (Chomping × Option Nat × Cursor) := do
  match chomping? c.peek with
  | some chomping =>
    match increment? c.next.peek with
    | some increment => return (chomping, some (← increment), c.next.next)
    | none => return (chomping, none, c.next)
  | none =>
    match increment? c.peek with
    | some increment =>
      let n ← increment
      match chomping? c.next.peek with
      | some chomping => return (chomping, some n, c.next.next)
      | none => return (.clip, some n, c.next)
    | none => return (.clip, none, c)

/-- The breaks of the empty lines at the start, the widest indentation on the way, and the place of
    the first character that is neither. -/
def indentation : Nat → Nat → Cursor → List Char × Nat × Cursor
  | 0, widest, c => ([], widest, c)
  | fuel + 1, widest, c =>
    if c.peek = ' ' then indentation fuel (max widest c.next.column) c.next
    else match c.lineBreak? with
      | some (b, c) =>
        let (more, widest, c) := indentation fuel widest c
        (b :: more, widest, c)
      | none => ([], widest, c)

/-- The place behind spaces, at most up to a column. -/
def indentTo (indent : Nat) : Nat → Cursor → Cursor
  | 0, c => c
  | fuel + 1, c =>
    if c.column < indent ∧ c.peek = ' ' then indentTo indent fuel c.next else c

/-- The breaks of empty lines, and the place of the next line at the indentation. -/
def breaks (indent : Nat) : Nat → Cursor → List Char × Cursor
  | 0, c => ([], c)
  | fuel + 1, c =>
    let c := indentTo indent indent c
    match c.lineBreak? with
    | some (b, c) =>
      let (more, c) := breaks indent fuel c
      (b :: more, c)
    | none => ([], c)

/-- Whether a line at the place belongs to the scalar. -/
def goesOn (indent : Nat) (c : Cursor) : Bool := c.column = indent && c.peek ≠ '\x00'

/-- The lines of a scalar: their text, the last break, the breaks after it, and the place behind. -/
def lines (folded : Bool) (indent : Nat) :
    Nat → List Char → Cursor → List Char × List Char × List Char × Cursor
  | 0, gap, c => ([], [], gap, c)
  | fuel + 1, gap, c =>
    if goesOn indent c then
      let startsBlank := c.peek = ' ' || c.peek = '\t'
      let (line, c) := c.span fun ch => !isBreak ch
      let (last, c) := match c.lineBreak? with
        | some (b, c) => ([b], c)
        | none => ([], c)
      let (next, c) := breaks indent (c.rest.length + 1) c
      if goesOn indent c then
        let joint :=
          if folded && last = ['\n'] && !startsBlank && c.peek ≠ ' ' && c.peek ≠ '\t' then
            if next.isEmpty then [' '] else []
          else last
        let (more, last, tail, c) := lines folded indent fuel next c
        (gap ++ line ++ joint ++ more, last, tail, c)
      else (gap ++ line, last, next, c)
    else ([], [], gap, c)

/-- A block scalar whose first character is its indicator, inside some indentation. -/
def scan (folded : Bool) (outer : Int) (c : Cursor) : Except Failure (List Char × Cursor) := do
  let (chomping, increment, c) ← header c.next
  if !(c.peek = ' ' || endsLine c.peek) then throw .malformed
  let c ← c.endOfLine
  let least := max 1 (outer + 1).toNat
  let fuel := c.rest.length + 1
  let (first, indent, c) :=
    match increment with
    | none =>
      let (first, widest, c) := indentation fuel 0 c
      (first, max least widest, c)
    | some n =>
      let indent := least + n - 1
      let (first, c) := breaks indent fuel c
      (first, indent, c)
  let (text, last, tail, c) := lines folded indent (c.rest.length + 1) first c
  return (match chomping with
    | .strip => (text, c)
    | .clip => (text ++ last, c)
    | .keep => (text ++ last ++ tail, c))

end ImportPolicy.Yaml.Block
