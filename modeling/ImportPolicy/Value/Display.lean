import ImportPolicy.Number.Shortest
import ImportPolicy.Text.Printable
import ImportPolicy.Value.Basic

/-! # Displayed values

How a value is shown inside a message.

* `Text.quoted` — a text in quotes, with escapes for what is not printable.
* `Value.display` — a value as it is written in messages.
* `Value.plain` — a value as it is joined into other text: a text without quotes. -/

namespace ImportPolicy

namespace Text

/-- A hexadecimal digit. -/
def hexDigit (n : Nat) : Char :=
  if n < 10 then Char.ofNat (0x30 + n) else Char.ofNat (0x61 + n - 10)

/-- The last `width` hexadecimal digits of a number. -/
def hexDigits : Nat → Nat → List Char
  | 0, _ => []
  | width + 1, n => hexDigits width (n / 16) ++ [hexDigit (n % 16)]

/-- A code point inside quotes. -/
def quotedPoint (quote c : CodePoint) : Text :=
  if c = quote ∨ c = .scalar '\\' then [.scalar '\\', c]
  else if c = .scalar '\n' then "\\n"
  else if c = .scalar '\r' then "\\r"
  else if c = .scalar '\t' then "\\t"
  else if c.isPrintable then [c]
  else if c.toNat < 0x100 then "\\x" ++ ofChars (hexDigits 2 c.toNat)
  else if c.toNat < 0x10000 then "\\u" ++ ofChars (hexDigits 4 c.toNat)
  else "\\U" ++ ofChars (hexDigits 8 c.toNat)

/-- The apostrophe. -/
def apostrophe : CodePoint := .scalar '\x27'

/-- The quotation mark. -/
def quotationMark : CodePoint := .scalar '\x22'

/-- A text in apostrophes, or in quotation marks if it holds an apostrophe and no quotation
    mark. -/
def quoted (t : Text) : Text :=
  let quote :=
    if apostrophe ∈ t ∧ quotationMark ∉ t then quotationMark else apostrophe
  quote :: t.flatMap (quotedPoint quote) ++ [quote]

/-- A number with at least `width` digits. -/
def padded (width n : Nat) : Text :=
  let digits := Nat.toDigits 10 n
  ofChars (List.replicate (width - digits.length) '0' ++ digits)

end Text

namespace Date

/-- Year, month and day with dashes. -/
def spell (d : Date) : Text :=
  Text.padded 4 d.year ++ "-" ++ Text.padded 2 d.month ++ "-" ++ Text.padded 2 d.day

end Date

namespace Moment

/-- The distance from universal time as hours, minutes and, if there are any, seconds. -/
def spellOffset (seconds : Int) : Text :=
  let n := seconds.natAbs
  (if seconds < 0 then "-" else "+") ++ Text.padded 2 (n / 3600) ++ ":" ++
    Text.padded 2 (n / 60 % 60) ++
    (if n % 60 = 0 then [] else ":" ++ Text.padded 2 (n % 60))

/-- Day, time, fraction of a second if there is one, and offset if it is known. -/
def spell (m : Moment) (between : Text) : Text :=
  m.date.spell ++ between ++ Text.padded 2 m.hour ++ ":" ++ Text.padded 2 m.minute ++ ":" ++
    Text.padded 2 m.second ++
    (if m.microsecond = 0 then [] else "." ++ Text.padded 6 m.microsecond) ++
    m.offset.elim [] spellOffset

end Moment

namespace Value

/-- A byte inside the display of bytes. -/
def displayByte (quote : Char) (b : UInt8) : List Char :=
  let c := Char.ofNat b.toNat
  if c = quote ∨ c = '\\' then ['\\', c]
  else if c = '\n' then ['\\', 'n']
  else if c = '\r' then ['\\', 'r']
  else if c = '\t' then ['\\', 't']
  else if b < 0x20 ∨ 0x7F ≤ b then '\\' :: 'x' :: Text.hexDigits 2 b.toNat
  else [c]

/-- Bytes in quotes after the letter `b`. -/
def displayBytes (bs : List UInt8) : Text :=
  let quote := if 0x27 ∈ bs ∧ 0x22 ∉ bs then '\x22' else '\x27'
  Text.ofChars ('b' :: quote :: bs.flatMap (displayByte quote) ++ [quote])

/-- Numbers as arguments, separated by commas. -/
def displayArguments (numbers : List Nat) : Text :=
  Text.joinWith ", " (numbers.map Text.ofNat)

/-- The constructor call of a day. -/
def displayDate (d : Date) : Text :=
  "datetime.date(" ++ displayArguments [d.year, d.month, d.day] ++ ")"

/-- The constructor call of a span of time in whole seconds. Parts that are zero are left out. -/
def displaySpan (seconds : Int) : Text :=
  let part (name : Text) (n : Int) : List Text := if n = 0 then [] else [name ++ Text.ofInt n]
  let parts := part "days=" (Int.fdiv seconds 86400) ++ part "seconds=" (Int.fmod seconds 86400)
  "datetime.timedelta(" ++ (if parts.isEmpty then ("0" : Text) else Text.joinWith ", " parts) ++ ")"

/-- The constructor call of an offset from universal time. -/
def displayOffset (seconds : Int) : Text :=
  if seconds = 0 then ", tzinfo=datetime.timezone.utc"
  else ", tzinfo=datetime.timezone(" ++ displaySpan seconds ++ ")"

/-- The constructor call of a point in time; zero seconds are left out. -/
def displayMoment (m : Moment) : Text :=
  "datetime.datetime(" ++
    displayArguments ([m.date.year, m.date.month, m.date.day, m.hour, m.minute] ++
      (if m.second = 0 ∧ m.microsecond = 0 then [] else [m.second]) ++
      (if m.microsecond = 0 then [] else [m.microsecond])) ++
    m.offset.elim [] displayOffset ++ ")"

mutual

/-- A value as messages show it. -/
def display : Value → Text
  | .null => "None"
  | .bool b => if b then "True" else "False"
  | .int i => Text.ofInt i
  | .float x => x.spell
  | .str t => t.quoted
  | .list items => "[" ++ Text.joinWith ", " (displayItems items) ++ "]"
  | .map entries => "\x7b" ++ Text.joinWith ", " (displayEntries entries) ++ "\x7d"
  | .date d => displayDate d.toDate
  | .moment m => displayMoment m.toMoment
  | .bytes bs => displayBytes bs
  | .set members =>
    if members.isEmpty then "set()"
    else "\x7b" ++ Text.joinWith ", " (displayItems members) ++ "\x7d"
  | .pair first second => "(" ++ display first ++ ", " ++ display second ++ ")"

/-- The displays of the items of a list. -/
def displayItems : List Value → List Text
  | [] => []
  | item :: items => display item :: displayItems items

/-- The displays of the entries of a mapping. -/
def displayEntries : List (Value × Value) → List Text
  | [] => []
  | (key, value) :: entries => (display key ++ ": " ++ display value) :: displayEntries entries

end

/-- A value as it is joined into other text. -/
def plain : Value → Text
  | .str t => t
  | .date d => d.spell
  | .moment m => m.spell " "
  | v => v.display

end Value

end ImportPolicy
