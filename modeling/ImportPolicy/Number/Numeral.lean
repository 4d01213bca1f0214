import ImportPolicy.Text.Blank

/-! # Numerals

Reading an integer in a base from text. Blanks may surround the numeral, a sign may precede it,
single underscores may stand between digits, and a numeral may begin with a zero and the letter of
its base.
Decimal digits of every script count as the digits `0` to `9`.

* `Numeral.digit?` — the value of a digit in bases up to 36.
* `Numeral.integer?`, `Numeral.hexadecimal?` — the integer of a numeral. -/

namespace ImportPolicy.Numeral

/-- The value of an ASCII digit or letter as a digit. -/
def digit? (c : Char) : Option Nat :=
  if '0' ≤ c ∧ c ≤ '9' then some (c.toNat - '0'.toNat)
  else if 'a' ≤ c ∧ c ≤ 'z' then some (c.toNat - 'a'.toNat + 10)
  else if 'A' ≤ c ∧ c ≤ 'Z' then some (c.toNat - 'A'.toNat + 10)
  else none

/-- The value of a list of digits after a value read so far. -/
def ofDigits? (base : Nat) (value : Nat) : List Char → Option Nat
  | [] => some value
  | c :: rest => do
    let d ← digit? c
    if d < base then ofDigits? base (value * base + d) rest else none

/-- The digits of a numeral whose underscores stand singly between digits. -/
def digitsOf? : List Char → Option (List Char)
  | [] => none
  | ['_'] => none
  | [c] => some [c]
  | '_' :: _ => none
  | c :: '_' :: rest => (digitsOf? rest).map (c :: ·)
  | c :: rest => (digitsOf? rest).map (c :: ·)

/-- The blanks that may surround a numeral. -/
def isSpace (c : Char) : Bool :=
  c = ' ' || c = '\t' || c = '\n' || c = '\r' || c.toNat = 0x0B || c.toNat = 0x0C

/-- The numeral in ASCII: a digit of another script becomes the ASCII digit of its value, and
    other white space becomes a space. -/
def toAscii? : Text → Option (List Char)
  | [] => some []
  | c :: rest => do
    let here ←
      match c with
      | .surrogate _ => none
      | .scalar char =>
        if char.toNat < 127 then some char
        else if c.isBlank then some ' '
        else c.digit?.map fun d => Char.ofNat ('0'.toNat + d)
    return here :: (← toAscii? rest)

/-- The text without surrounding blanks. -/
def trim (cs : List Char) : List Char :=
  ((cs.dropWhile isSpace).reverse.dropWhile isSpace).reverse

/-- The letter that may mark a base after a zero. -/
def baseLetter? (base : Nat) : Option Char :=
  if base = 2 then some 'b' else if base = 8 then some 'o' else if base = 16 then some 'x' else none

/-- A numeral without the mark of its base, which one underscore may follow. -/
def dropMark (base : Nat) : List Char → List Char
  | '0' :: letter :: rest =>
    if baseLetter? base = some letter.toLower then
      match rest with
      | '_' :: digits => digits
      | _ => rest
    else '0' :: letter :: rest
  | cs => cs

/-- The integer of a numeral in a base. -/
def integer? (base : Nat) (t : Text) : Option Int := do
  let ascii ← toAscii? t
  let (negative, unsigned) :=
    match trim ascii with
    | '-' :: rest => (true, rest)
    | '+' :: rest => (false, rest)
    | cs => (false, cs)
  let digits ← digitsOf? (dropMark base unsigned)
  let n ← ofDigits? base 0 digits
  return if negative then -Int.ofNat n else Int.ofNat n

/-- The integer of a numeral of base sixteen. -/
def hexadecimal? (t : Text) : Option Int := integer? 16 t

end ImportPolicy.Numeral
