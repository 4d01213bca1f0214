import ImportPolicy.Yaml.Failure

/-! # Cursors

A place in a YAML text, with the line and the column that indentation is measured by.

* `Cursor.peek`, `Cursor.peekAt` — the characters ahead; NUL stands for the end.
* `Cursor.next`, `Cursor.skip` — moving on.
* `Cursor.lineBreak?` — a line break as the scalar around it sees it.
* `Cursor.atMarker` — whether a document starts or ends here. -/

namespace ImportPolicy.Yaml

/-- Whether a character ends a line. -/
def isBreak (c : Char) : Bool := c = '\n' || c = '\u0085' || c = '\u2028' || c = '\u2029'

/-- Whether a character ends a line or the text. -/
def endsLine (c : Char) : Bool := c = '\x00' || isBreak c

/-- Whether a character ends a word. -/
def endsWord (c : Char) : Bool := c = ' ' || c = '\t' || endsLine c

/-- The characters that a text may hold. -/
def isAllowed (c : Char) : Bool :=
  c = '\t' || c = '\n' || c = '\r' || (' ' ≤ c && c ≤ '~') || c = '\u0085' ||
    ('\u00a0' ≤ c && c ≤ '\ufffd') || 0x10000 ≤ c.toNat

/-- A place in a text. -/
structure Cursor where
  rest : List Char
  index : Nat := 0
  line : Nat := 0
  column : Nat := 0
  deriving Inhabited

namespace Cursor

/-- The next character. -/
def peek (c : Cursor) : Char := c.rest.headD '\x00'

/-- The character so many places ahead. -/
def peekAt (c : Cursor) (n : Nat) : Char := (c.rest.drop n).headD '\x00'

/-- The place behind the next character. A byte order mark takes no column. -/
def next (c : Cursor) : Cursor :=
  match c.rest with
  | [] => c
  | ch :: rest =>
    if isBreak ch then ⟨rest, c.index + 1, c.line + 1, 0⟩
    else ⟨rest, c.index + 1, c.line, if ch = '\ufeff' then c.column else c.column + 1⟩

/-- The place so many characters ahead. -/
def skip : Nat → Cursor → Cursor
  | 0, c => c
  | n + 1, c => skip n c.next

/-- The characters ahead that satisfy a test, and the place behind them. -/
def span (test : Char → Bool) (c : Cursor) : List Char × Cursor :=
  let word := c.rest.takeWhile test
  (word, c.skip word.length)

/-- The place behind spaces. -/
def skipSpaces (c : Cursor) : Cursor := (c.span (· = ' ')).2

/-- The place behind a comment, if one starts here. -/
def skipComment (c : Cursor) : Cursor :=
  if c.peek = '#' then (c.span fun ch => !isBreak ch).2 else c

/-- A line break and the place behind it. The separators of lines and paragraphs stay what they are;
    other breaks are line feeds. -/
def lineBreak? (c : Cursor) : Option (Char × Cursor) :=
  if isBreak c.peek then
    some (if c.peek = '\u2028' ∨ c.peek = '\u2029' then c.peek else '\n', c.next)
  else none

/-- Whether the text goes on with the given characters. -/
def startsWith (c : Cursor) (word : List Char) : Bool := word.isPrefixOf c.rest

/-- Whether three dashes or three points stand here as a word. -/
def atMarker (c : Cursor) : Bool :=
  (c.startsWith ['-', '-', '-'] || c.startsWith ['.', '.', '.']) && endsWord (c.peekAt 3)

/-- The end of a line that holds nothing more than spaces and a comment. -/
def endOfLine (c : Cursor) : Except Failure Cursor :=
  let c := c.skipSpaces.skipComment
  if endsLine c.peek then .ok ((c.lineBreak?.map (·.2)).getD c) else .error .malformed

end Cursor

end ImportPolicy.Yaml
