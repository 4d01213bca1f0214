import ImportPolicy.Value.Basic

/-! # Reading JSON

The grammar of JSON with three more numbers: `NaN`, `Infinity` and `-Infinity`. A key that occurs
twice has the last of its values. Control characters inside strings are refused, and so are
integers of more digits than a limit allows; JSON itself has no such limit.

* `Json.joinSurrogates` — two halves of a surrogate pair as one code point.
* `Json.readString`, `Json.readAtom` — the leaves.
* `Json.parseWithin?` — the value of a whole text whose integers keep to a limit.
* `Json.parse?` — the same with integers of at most 4300 digits. -/

namespace ImportPolicy.Json

/-- White space between tokens. -/
def isSpace (c : Char) : Bool := c = ' ' || c = '\t' || c = '\n' || c = '\r'

/-- The text from the next token on. -/
def skipSpace (cs : List Char) : List Char := cs.dropWhile isSpace

/-- The value of a hexadecimal digit. -/
def hexDigit? (c : Char) : Option Nat :=
  if '0' ≤ c ∧ c ≤ '9' then some (c.toNat - 0x30)
  else if 'a' ≤ c ∧ c ≤ 'f' then some (c.toNat - 0x61 + 10)
  else if 'A' ≤ c ∧ c ≤ 'F' then some (c.toNat - 0x41 + 10)
  else none

/-- The code point of four hexadecimal digits. -/
def fourDigits? (a b c d : Char) : Option CodePoint := do
  CodePoint.ofNat?
    ((((← hexDigit? a) * 16 + (← hexDigit? b)) * 16 + (← hexDigit? c)) * 16 + (← hexDigit? d))

/-- The character of an escape with a single letter. -/
def escapedChar? : Char → Option Char
  | '\x22' => some '\x22'
  | '\\' => some '\\'
  | '/' => some '/'
  | 'b' => some (Char.ofNat 0x08)
  | 'f' => some (Char.ofNat 0x0C)
  | 'n' => some '\n'
  | 'r' => some '\r'
  | 't' => some '\t'
  | _ => none

/-- A high half followed by a low half is the code point of the pair. -/
def joinSurrogates : Text → Text
  | [] => []
  | .scalar c :: rest => .scalar c :: joinSurrogates rest
  | [.surrogate a] => [.surrogate a]
  | .surrogate a :: .scalar c :: rest => .surrogate a :: .scalar c :: joinSurrogates rest
  | .surrogate a :: .surrogate b :: rest =>
    if a.val < 1024 ∧ 1024 ≤ b.val then
      .scalar (Char.ofNat (0x10000 + a.val * 1024 + (b.val - 1024))) :: joinSurrogates rest
    else .surrogate a :: joinSurrogates (.surrogate b :: rest)

/-- The code points up to the closing quote, and what follows it. -/
def readString : List Char → Option (Text × List Char)
  | [] => none
  | '\x22' :: rest => some ([], rest)
  | '\\' :: 'u' :: a :: b :: c :: d :: rest => do
    let point ← fourDigits? a b c d
    let (more, rest) ← readString rest
    return (point :: more, rest)
  | '\\' :: c :: rest => do
    let char ← escapedChar? c
    let (more, rest) ← readString rest
    return (.scalar char :: more, rest)
  | c :: rest =>
    if c.toNat < 0x20 ∨ c = '\\' then none
    else do
      let (more, rest) ← readString rest
      return (.scalar c :: more, rest)

/-- Digits as a natural number. -/
def digitsValue (cs : List Char) : Nat := cs.foldl (fun n c => n * 10 + (c.toNat - 0x30)) 0

/-- The exponent after its letter: a sign and digits. -/
def readExponent (cs : List Char) : Option (Int × List Char) :=
  let (negative, unsigned) :=
    match cs with
    | '-' :: rest => (true, rest)
    | '+' :: rest => (false, rest)
    | _ => (false, cs)
  let digits := unsigned.takeWhile Char.isDigit
  if digits.isEmpty then none
  else
    let n := Int.ofNat (digitsValue digits)
    some (if negative then -n else n, unsigned.dropWhile Char.isDigit)

/-- The digits before the point: a lone zero, or digits that do not start with one. -/
def wholeDigits : List Char → List Char
  | '0' :: _ => ['0']
  | cs => cs.takeWhile Char.isDigit

/-- The digits after a point, if there are any. -/
def fractionDigits : List Char → List Char
  | '.' :: rest => rest.takeWhile Char.isDigit
  | _ => []

/-- The number without its sign. It is an integer unless it has a fraction or an exponent. The limit is
    the greatest number of digits that an integer may have, if there is one. -/
def readMagnitude (limit : Option Nat) (negative : Bool) (cs : List Char) :
    Option (Value × List Char) :=
  let whole := wholeDigits cs
  if whole.isEmpty then none
  else
    let afterWhole := cs.drop whole.length
    let fraction := fractionDigits afterWhole
    let afterFraction :=
      if fraction.isEmpty then afterWhole else afterWhole.drop (fraction.length + 1)
    let exponent? :=
      match afterFraction with
      | c :: rest => if c = 'e' ∨ c = 'E' then readExponent rest else none
      | [] => none
    match exponent?, fraction with
    | none, [] =>
      if limit.any (· < whole.length) then none
      else
        let n := Int.ofNat (digitsValue whole)
        some (.int (if negative then -n else n), afterWhole)
    | none, _ =>
      some (.float (Binary64.ofDecimal negative (digitsValue (whole ++ fraction))
        (-Int.ofNat fraction.length)), afterFraction)
    | some (exponent, rest), _ =>
      some (.float (Binary64.ofDecimal negative (digitsValue (whole ++ fraction))
        (exponent - Int.ofNat fraction.length)), rest)

/-- What follows a word at the front of a text. -/
def afterWord? (word : String) (cs : List Char) : Option (List Char) :=
  let w := word.toList
  if w.isPrefixOf cs then some (cs.drop w.length) else none

/-- A value that is one of the words of JSON, or a number. -/
def readAtom (limit : Option Nat) (cs : List Char) : Option (Value × List Char) :=
  match cs with
  | 'n' :: _ => (afterWord? "null" cs).map (Value.null, ·)
  | 't' :: _ => (afterWord? "true" cs).map (Value.bool true, ·)
  | 'f' :: _ => (afterWord? "false" cs).map (Value.bool false, ·)
  | 'N' :: _ => (afterWord? "NaN" cs).map (Value.float Binary64.nan, ·)
  | 'I' :: _ => (afterWord? "Infinity" cs).map (Value.float (Binary64.infinity false), ·)
  | '-' :: 'I' :: rest =>
    (afterWord? "Infinity" ('I' :: rest)).map (Value.float (Binary64.infinity true), ·)
  | '-' :: rest => readMagnitude limit true rest
  | _ => readMagnitude limit false cs

mutual

/-- The value at the front of a text. The number bounds the depth of nesting and the number of
    items. -/
def readValue (limit : Option Nat) : Nat → List Char → Option (Value × List Char)
  | 0, _ => none
  | fuel + 1, cs =>
    match cs with
    | '\x22' :: rest => do
      let (t, rest) ← readString rest
      return (.str (joinSurrogates t), rest)
    | '[' :: rest =>
      match skipSpace rest with
      | ']' :: rest => some (.list [], rest)
      | cs => do
        let (items, rest) ← readItems limit fuel cs
        return (.list items, rest)
    | '\x7b' :: rest =>
      match skipSpace rest with
      | '\x7d' :: rest => some (.map [], rest)
      | cs => do
        let (entries, rest) ← readEntries limit fuel cs
        return (.map (Mapping.ofList entries), rest)
    | cs => readAtom limit cs

/-- The items of a list up to its closing bracket. -/
def readItems (limit : Option Nat) : Nat → List Char → Option (List Value × List Char)
  | 0, _ => none
  | fuel + 1, cs => do
    let (item, rest) ← readValue limit fuel cs
    match skipSpace rest with
    | ']' :: rest => return ([item], rest)
    | ',' :: rest => do
      let (items, rest) ← readItems limit fuel (skipSpace rest)
      return (item :: items, rest)
    | _ => none

/-- The entries of a mapping up to its closing brace. -/
def readEntries (limit : Option Nat) : Nat → List Char → Option (List (Value × Value) × List Char)
  | 0, _ => none
  | fuel + 1, cs =>
    match cs with
    | '\x22' :: rest => do
      let (key, rest) ← readString rest
      match skipSpace rest with
      | ':' :: rest => do
        let (value, rest) ← readValue limit fuel (skipSpace rest)
        let entry := (Value.str (joinSurrogates key), value)
        match skipSpace rest with
        | '\x7d' :: rest => return ([entry], rest)
        | ',' :: rest => do
          let (entries, rest) ← readEntries limit fuel (skipSpace rest)
          return (entry :: entries, rest)
        | _ => none
      | _ => none
    | _ => none

end

/-- The value that a text spells, if it spells one and nothing else, and no integer has more digits
    than the limit allows. -/
def parseWithin? (limit : Option Nat) (cs : List Char) : Option Value := do
  let (value, rest) ← readValue limit (cs.length + 1) (skipSpace cs)
  if (skipSpace rest).isEmpty then some value else none

/-- The value that a text spells, where integers have at most 4300 digits. -/
def parse? (cs : List Char) : Option Value := parseWithin? (some 4300) cs

end ImportPolicy.Json
