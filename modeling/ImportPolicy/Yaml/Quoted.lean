import ImportPolicy.Number.Bounds
import ImportPolicy.Yaml.Cursor

/-! # Quoted scalars

* `Quoted.single` — a scalar in apostrophes, where a double apostrophe is one.
* `Quoted.double` — a scalar in quotation marks, where a backslash starts an escape. -/

namespace ImportPolicy.Yaml.Quoted

/-- The place behind blanks. -/
def skipBlanks (c : Cursor) : Cursor := (c.span fun ch => ch = ' ' || ch = '\t').2

/-- The breaks of empty lines, and the place at the next character of the scalar. -/
def breaks : Nat → Cursor → Except Failure (List Char × Cursor)
  | 0, _ => .error .malformed
  | fuel + 1, c =>
    if c.atMarker then .error .malformed
    else
      let c := skipBlanks c
      match c.lineBreak? with
      | none => .ok ([], c)
      | some (b, c) => do
        let (more, c) ← breaks fuel c
        return (b :: more, c)

/-- The blanks or the folded line breaks at a place. -/
def spaces (c : Cursor) : Except Failure (List Char × Cursor) :=
  let (blanks, c) := c.span fun ch => ch = ' ' || ch = '\t'
  if c.peek = '\x00' then .error .malformed
  else match c.lineBreak? with
    | none => .ok (blanks, c)
    | some (first, c) => do
      let (more, c) ← breaks (c.rest.length + 1) c
      let start := if first ≠ '\n' then [first] else if more.isEmpty then [' '] else []
      return (start ++ more, c)

/-- Whether a character has to be looked at in a quoted scalar. -/
def isSpecial (ch : Char) : Bool := ch = '\x27' || ch = '\x22' || ch = '\\' || endsWord ch

/-- A scalar in apostrophes, from behind the first one. -/
def singleFrom : Nat → Cursor → Except Failure (List Char × Cursor)
  | 0, _ => .error .malformed
  | fuel + 1, c =>
    let (plain, c) := c.span fun ch => !isSpecial ch
    match c.peek with
    | '\x27' =>
      if c.peekAt 1 = '\x27' then do
        let (more, c) ← singleFrom fuel (c.skip 2)
        return (plain ++ '\x27' :: more, c)
      else .ok (plain, c.next)
    | '\x22' => do
      let (more, c) ← singleFrom fuel c.next
      return (plain ++ '\x22' :: more, c)
    | '\\' => do
      let (more, c) ← singleFrom fuel c.next
      return (plain ++ '\\' :: more, c)
    | _ => do
      let (gap, c) ← spaces c
      let (more, c) ← singleFrom fuel c
      return (plain ++ gap ++ more, c)

/-- A scalar in apostrophes. -/
def single (c : Cursor) : Except Failure (Text × Cursor) := do
  let (chars, c) ← singleFrom (c.rest.length + 1) c.next
  return (Text.ofChars chars, c)

/-- The character of an escape of one letter. -/
def escaped? : Char → Option Char
  | '0' => some '\x00'
  | 'a' => some '\x07'
  | 'b' => some '\x08'
  | 't' => some '\t'
  | '\t' => some '\t'
  | 'n' => some '\n'
  | 'v' => some '\x0b'
  | 'f' => some '\x0c'
  | 'r' => some '\r'
  | 'e' => some '\x1b'
  | ' ' => some ' '
  | '\x22' => some '\x22'
  | '\\' => some '\\'
  | '/' => some '/'
  | 'N' => some '\u0085'
  | '_' => some '\u00a0'
  | 'L' => some '\u2028'
  | 'P' => some '\u2029'
  | _ => none

/-- The number of digits behind the letter of a numeric escape. -/
def digitCount? : Char → Option Nat
  | 'x' => some 2
  | 'u' => some 4
  | 'U' => some 8
  | _ => none

/-- The value of a hexadecimal digit. -/
def hexDigit? (c : Char) : Option Nat :=
  if '0' ≤ c ∧ c ≤ '9' then some (c.toNat - 0x30)
  else if 'a' ≤ c ∧ c ≤ 'f' then some (c.toNat - 0x61 + 10)
  else if 'A' ≤ c ∧ c ≤ 'F' then some (c.toNat - 0x41 + 10)
  else none

/-- The code point of a numeric escape. -/
def codePoint (count : Nat) (c : Cursor) : Except Failure CodePoint :=
  let digits := c.rest.take count
  if digits.length < count then .error .malformed
  else match digits.foldlM (fun n d => (hexDigit? d).map (n * 16 + ·)) 0 with
    | none => .error .malformed
    | some n =>
      match CodePoint.ofNat? n with
      | some p => .ok p
      | none =>
        if Bounds.int32 ≤ n then .error .numberTooLarge
        else .error (.invalidValue "chr() arg not in range(0x110000)")

/-- A scalar in quotation marks, from behind the first one. -/
def doubleFrom : Nat → Cursor → Except Failure (Text × Cursor)
  | 0, _ => .error .malformed
  | fuel + 1, c =>
    let (plain, c) := c.span fun ch => !isSpecial ch
    match c.peek with
    | '\x22' => .ok (Text.ofChars plain, c.next)
    | '\x27' => do
      let (more, c) ← doubleFrom fuel c.next
      return (Text.ofChars plain ++ [.scalar '\x27'] ++ more, c)
    | '\\' => do
      let c := c.next
      let (here, c) ←
        match escaped? c.peek, digitCount? c.peek with
        | some ch, _ => pure ([CodePoint.scalar ch], c.next)
        | none, some count => do
          let p ← codePoint count c.next
          pure ([p], c.next.skip count)
        | none, none =>
          match c.lineBreak? with
          | some (_, c) => do
            let (more, c) ← breaks (c.rest.length + 1) c
            pure (Text.ofChars more, c)
          | none => throw .malformed
      let (more, c) ← doubleFrom fuel c
      return (Text.ofChars plain ++ here ++ more, c)
    | _ => do
      let (gap, c) ← spaces c
      let (more, c) ← doubleFrom fuel c
      return (Text.ofChars (plain ++ gap) ++ more, c)

/-- A scalar in quotation marks. -/
def double (c : Cursor) : Except Failure (Text × Cursor) :=
  doubleFrom (c.rest.length + 1) c.next

end ImportPolicy.Yaml.Quoted
