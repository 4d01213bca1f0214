import ImportPolicy.Yaml.Cursor

/-! # Plain scalars

A plain scalar stands without quotes and may go on over several lines, whose breaks are folded.

* `Plain.scan` — a plain scalar at a place. -/

namespace ImportPolicy.Yaml.Plain

/-- The gap between two words: its text as the scalar sees it, the place behind it, and whether a
    line ended in it. A document marker after a break gives no gap. -/
structure Gap where
  text : List Char
  cursor : Cursor
  crossesLine : Bool

/-- The breaks and spaces at the start of further lines; none if a document marker follows one. -/
def breaks : Nat → Cursor → Option (List Char) × Cursor
  | 0, c => (some [], c)
  | fuel + 1, c =>
    if c.peek = ' ' then breaks fuel c.next
    else match c.lineBreak? with
      | none => (some [], c)
      | some (b, c) =>
        if c.atMarker then (none, c)
        else
          let (more, c) := breaks fuel c
          (more.map (b :: ·), c)

/-- The gap at a place. -/
def gap (c : Cursor) : Gap :=
  let (spaces, c) := c.span (· = ' ')
  match c.lineBreak? with
  | none => ⟨spaces, c, false⟩
  | some (first, c) =>
    if c.atMarker then ⟨[], c, true⟩
    else
      match breaks (c.rest.length + 1) c with
      | (none, c) => ⟨[], c, true⟩
      | (some more, c) =>
        let start := if first ≠ '\n' then [first] else if more.isEmpty then [' '] else []
        ⟨start ++ more, c, true⟩

/-- The length of the word at the start of some characters. In flow context it also ends at the
    characters that flow collections are written with. -/
def wordLength (inFlow : Bool) : List Char → Nat
  | [] => 0
  | ch :: rest =>
    let after := rest.headD '\x00'
    if endsWord ch || (ch = ':' && (endsWord after || (inFlow && [',', '[', ']', '\x7b', '\x7d'].contains after))) ||
        (inFlow && [',', '?', '[', ']', '\x7b', '\x7d'].contains ch) then 0
    else wordLength inFlow rest + 1

/-- Words and gaps up to the end of the scalar. -/
def words (inFlow : Bool) (indent : Int) : Nat → Gap → List Char × Gap
  | 0, g => ([], g)
  | fuel + 1, g =>
    let c := g.cursor
    let length := if c.peek = '#' then 0 else wordLength inFlow c.rest
    if length = 0 then ([], { g with text := [] })
    else
      let word := c.rest.take length
      let after := gap (c.skip length)
      if after.text.isEmpty || after.cursor.peek = '#' ||
          (!inFlow && Int.ofNat after.cursor.column < indent) then
        (g.text ++ word, after)
      else
        let (more, last) := words inFlow indent fuel after
        (g.text ++ word ++ more, last)

/-- The text of a plain scalar, the place behind it, and whether that place is on a later line. -/
def scan (inFlow : Bool) (indent : Int) (c : Cursor) : List Char × Cursor × Bool :=
  let (text, last) := words inFlow indent (c.rest.length + 1) ⟨[], c, false⟩
  (text, last.cursor, last.crossesLine)

end ImportPolicy.Yaml.Plain
