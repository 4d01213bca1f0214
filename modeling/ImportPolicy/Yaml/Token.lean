import ImportPolicy.Text.Utf8
import ImportPolicy.Yaml.Cursor

/-! # Tokens of YAML

The words that a YAML text is made of, and those of them that can be told from the characters ahead
alone: tags, names and directives.

* `Token` — a word of a YAML text.
* `Tag.scan`, `Name.scan`, `Directive.scan` — words at a place. -/

namespace ImportPolicy.Yaml

/-- A tag as it is written: a handle, if it has one, and what follows it. -/
structure Tag where
  handle : Option Text
  suffix : Text
  deriving DecidableEq

/-- What a line with a percent sign says. -/
inductive Directive where
  | version (major : Nat)
  | handle (handle start : Text)
  | other

/-- A word of a YAML text. The words that open and close block collections are not written; they
    follow from indentation. -/
inductive Token where
  | directive (d : Directive)
  | documentStart
  | documentEnd
  | blockSequence
  | blockMapping
  | blockEnd
  | flowSequence
  | flowSequenceEnd
  | flowMapping
  | flowMappingEnd
  | blockItem
  | flowItem
  | key
  | value
  | alias (name : Text)
  | anchor (name : Text)
  | tag (t : Tag)
  | scalar (text : Text) (isPlain : Bool)

/-! ## Names -/

/-- A character of a name. -/
def isNameChar (c : Char) : Bool :=
  ('0' ≤ c && c ≤ '9') || ('A' ≤ c && c ≤ 'Z') || ('a' ≤ c && c ≤ 'z') || c = '-' || c = '_'

/-- The name behind the indicator of an anchor or an alias. -/
def Name.scan (c : Cursor) : Except Failure (Text × Cursor) :=
  let (name, c) := c.next.span isNameChar
  if name.isEmpty then .error .malformed
  else if endsWord c.peek || ['?', ':', ',', ']', '\x7d', '%', '@', '\x60'].contains c.peek then
    .ok (Text.ofChars name, c)
  else .error .malformed

/-! ## Tags -/

/-- Whether a space or the end of a line stands at a place. -/
def atGap (c : Cursor) : Bool := c.peek = ' ' || endsLine c.peek

/-- A character of a tag or of the start that a handle stands for. -/
def isTagChar (c : Char) : Bool :=
  isNameChar c || [';', '/', '?', ':', '@', '&', '=', '+', '$', ',', '.', '!', '~', '*', '\x27', '(',
    ')', '[', ']'].contains c

/-- The value of a hexadecimal digit. -/
def hexValue? (c : Char) : Option Nat :=
  if '0' ≤ c ∧ c ≤ '9' then some (c.toNat - 0x30)
  else if 'a' ≤ c ∧ c ≤ 'f' then some (c.toNat - 0x61 + 10)
  else if 'A' ≤ c ∧ c ≤ 'F' then some (c.toNat - 0x41 + 10)
  else none

/-- The bytes written with percent signs at a place. -/
def percentBytes : Nat → Cursor → Except Failure (List UInt8 × Cursor)
  | 0, _ => .error .malformed
  | fuel + 1, c =>
    if c.peek = '%' then
      match hexValue? (c.peekAt 1), hexValue? (c.peekAt 2) with
      | some high, some low => do
        let (more, c) ← percentBytes fuel (c.skip 3)
        return (UInt8.ofNat (high * 16 + low) :: more, c)
      | _, _ => .error .malformed
    else .ok ([], c)

/-- Characters of a tag, with the characters that bytes with percent signs encode. -/
def tagChars : Nat → Cursor → Except Failure (List Char × Cursor)
  | 0, _ => .error .malformed
  | fuel + 1, c =>
    let (word, c) := c.span isTagChar
    if c.peek = '%' then do
      let (bytes, c) ← percentBytes (c.rest.length + 1) c
      match Utf8.decode? bytes with
      | some chars =>
        let (more, c) ← tagChars fuel c
        return (word ++ chars ++ more, c)
      | none => throw .malformed
    else .ok (word, c)

/-- What follows a handle, or the start that a handle stands for; at least one character. -/
def tagText (c : Cursor) : Except Failure (Text × Cursor) := do
  let (chars, c) ← tagChars (c.rest.length + 1) c
  if chars.isEmpty then throw .malformed else return (Text.ofChars chars, c)

/-- A handle: one exclamation mark before a space, or a name between two. -/
def handleText (c : Cursor) : Except Failure (Text × Cursor) :=
  if c.peek ≠ '!' then .error .malformed
  else if c.peekAt 1 = ' ' then .ok ("!", c.next)
  else
    let (name, c) := c.next.span isNameChar
    if c.peek = '!' then .ok (Text.ofChars ('!' :: name ++ ['!']), c.next) else .error .malformed

/-- A tag at an exclamation mark. -/
def Tag.scan (c : Cursor) : Except Failure (Tag × Cursor) := do
  let (tag, c) ←
    if c.peekAt 1 = '<' then do
      let (suffix, c) ← tagText (c.skip 2)
      if c.peek = '>' then pure (Tag.mk none suffix, c.next) else throw .malformed
    else if endsWord (c.peekAt 1) then pure (Tag.mk none "!", c.next)
    else do
      let word := c.next.rest.takeWhile fun ch => !(ch = ' ' || endsLine ch)
      let (handle, c) ← if word.contains '!' then handleText c else pure (Text.ofString "!", c.next)
      let (suffix, c) ← tagText c
      pure (Tag.mk (some handle) suffix, c)
  if atGap c then return (tag, c) else throw .malformed

/-! ## Directives -/

/-- A number of ASCII digits. -/
def number (c : Cursor) : Except Failure (Nat × Cursor) :=
  let (digits, c) := c.span fun ch => '0' ≤ ch && ch ≤ '9'
  if digits.isEmpty then .error .malformed
  else .ok (digits.foldl (fun n d => n * 10 + (d.toNat - 0x30)) 0, c)

/-- The numbers of a version directive. -/
def versionNumbers (c : Cursor) : Except Failure (Directive × Cursor) := do
  let (major, c) ← number c.skipSpaces
  if c.peek ≠ '.' then throw .malformed
  let (_, c) ← number c.next
  if atGap c then return (.version major, c) else throw .malformed

/-- The handle of a tag directive and what it stands for. -/
def handleMeaning (c : Cursor) : Except Failure (Directive × Cursor) := do
  let (handle, c) ← handleText c.skipSpaces
  if c.peek ≠ ' ' then throw .malformed
  let (start, c) ← tagText c.skipSpaces
  if atGap c then return (.handle handle start, c) else throw .malformed

/-- A directive at a percent sign, up to the end of its line. -/
def Directive.scan (c : Cursor) : Except Failure (Directive × Cursor) := do
  let (name, c) := c.next.span isNameChar
  if name.isEmpty then throw .malformed
  if !atGap c then throw .malformed
  let (d, c) ←
    if name = ['Y', 'A', 'M', 'L'] then versionNumbers c
    else if name = ['T', 'A', 'G'] then handleMeaning c
    else pure (Directive.other, (c.span fun ch => !isBreak ch).2)
  return (d, ← c.endOfLine)

end ImportPolicy.Yaml
