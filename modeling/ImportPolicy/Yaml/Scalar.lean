import ImportPolicy.Number.Decimal
import ImportPolicy.Text.Base64
import ImportPolicy.Text.Case
import ImportPolicy.Value.Calendar
import ImportPolicy.Value.Display
import ImportPolicy.Yaml.Failure
import ImportPolicy.Yaml.Meaning

/-! # Values of scalars

A scalar is the value that its text spells under its tag. A tag that was written out may promise
more than the text holds.

* `Scalar.truth`, `Scalar.integer`, `Scalar.float`, `Scalar.timestamp`, `Scalar.binary` — one kind
  each.
* `Scalar.value` — the value of a text under a tag. -/

namespace ImportPolicy.Yaml.Scalar

/-- The failure of a number or time that does not exist. -/
def invalid {α : Type} (message : Text) : Except Failure α := throw (.invalidValue message)

/-- A truth value, in any case. -/
def truth (t : Text) : Except Failure Value :=
  let word := Text.lower t
  if (["yes", "true", "on"].map Text.ofString).contains word then pure (.bool true)
  else if (["no", "false", "off"].map Text.ofString).contains word then pure (.bool false)
  else throw .unknownTruthWord

/-- The text without underscores. -/
def dropUnderscores (t : Text) : Text := t.filter (· ≠ .scalar '_')

/-- Whether a sign at the start makes the number negative, and the text behind the sign. -/
def signed (t : Text) : Bool × Text :=
  match t with
  | .scalar '-' :: rest => (true, rest)
  | .scalar '+' :: rest => (false, rest)
  | _ => (false, t)

/-! ## Whole numbers -/

/-- The most digits that a decimal numeral may have. -/
def mostDigits : Nat := 4300

/-- The number of a numeral in a base. -/
def whole (base : Nat) (t : Text) : Except Failure Int :=
  let count := (t.filter fun c => c.digit?.isSome).length
  match Numeral.integer? base t with
  | some n =>
    if base = 10 ∧ mostDigits < count then
      invalid ("Exceeds the limit (4300 digits) for integer string conversion: value has "
        ++ Text.ofNat count ++ " digits; use sys.set_int_max_str_digits() to increase the limit")
    else pure n
  | none =>
    invalid ("invalid literal for int() with base " ++ Text.ofNat base ++ ": " ++ Text.quoted t)

/-- The number whose digits in base sixty are given, the highest first. -/
def ofSixties (digits : List Int) : Int := digits.foldl (fun n d => n * 60 + d) 0

/-- The size of a whole number that is not empty and has no sign: binary, hexadecimal and octal
    numbers start with `0b`, `0x` and `0`, and colons separate digits of base sixty. -/
def magnitude (t : Text) : Except Failure Int :=
  match t with
  | [] => throw .emptyNumber
  | [.scalar '0'] => pure 0
  | .scalar '0' :: .scalar 'b' :: digits => whole 2 digits
  | .scalar '0' :: .scalar 'x' :: digits => whole 16 digits
  | .scalar '0' :: _ => whole 8 t
  | _ =>
    if .scalar ':' ∈ t then return ofSixties (← (Text.splitOn (.scalar ':') t).mapM (whole 10))
    else whole 10 t

/-- A whole number. -/
def integer (t : Text) : Except Failure Value := do
  let (negative, unsigned) := signed (dropUnderscores t)
  let n ← magnitude unsigned
  return .int (if negative then -n else n)

/-! ## Numbers with a point -/

/-- The double of a decimal. -/
def decimal (t : Text) : Except Failure Binary64 :=
  match Decimal.double? t with
  | some x => pure x
  | none => invalid ("could not convert string to float: " ++ Text.quoted t)

/-- The sum of doubles times powers of sixty, the lowest first, where each product and each sum is
    rounded. -/
def sumSixties (sum : Binary64) (power : Nat) : List Binary64 → Except Failure Binary64
  | [] => pure sum
  | d :: rest =>
    let scale := Binary64.ofQuotient power 1
    if scale = Binary64.infinity false then throw .numberTooLarge
    else sumSixties (sum.add (d.mul scale)) (power * 60) rest

/-- A number with a point, an infinity, or no number. -/
def float (t : Text) : Except Failure Value := do
  let cleaned := Text.lower (dropUnderscores t)
  if cleaned.isEmpty then throw .emptyNumber
  let (negative, unsigned) := signed cleaned
  let signedDouble (x : Binary64) : Value := .float (if negative then x.neg else x)
  if unsigned = Text.ofString ".inf" then return signedDouble (Binary64.infinity false)
  else if unsigned = Text.ofString ".nan" then return .float Binary64.nan
  else if .scalar ':' ∈ unsigned then
    let digits ← (Text.splitOn (.scalar ':') unsigned).mapM decimal
    return signedDouble (← sumSixties (Binary64.ofMagnitude false 0) 1 digits.reverse)
  else return signedDouble (← decimal unsigned)

/-! ## Days and times -/

/-- The number of decimal digits. -/
def count (digits : List Char) : Nat := (Numeral.ofDigits? 10 0 digits).getD 0

/-- A number whose digits are at least and at most so many, and the text behind it. -/
def field? (least most : Nat) (cs : List Char) : Option (Nat × List Char) := do
  let rest ← Meaning.afterDigits? least most cs
  return (count (cs.take (cs.length - rest.length)), rest)

/-- The microseconds of a fraction of a second, of which six digits count, and the text behind
    it. -/
def fraction : List Char → Nat × List Char
  | '.' :: cs =>
    let digits := cs.takeWhile Meaning.isDigit
    (count ((digits ++ List.replicate 6 '0').take 6), cs.drop digits.length)
  | cs => (0, cs)

/-- The distance from universal time in seconds that a time zone states, where there is one. -/
def zone? (cs : List Char) : Option (Option Int) :=
  match cs.dropWhile fun c => c = ' ' || c = '\t' with
  | [] => if cs.isEmpty then some none else none
  | ['Z'] => some (some 0)
  | sign :: rest => do
    if sign ≠ '+' ∧ sign ≠ '-' then none
    let (hours, rest) ← field? 1 2 rest
    let minutes ← match rest with
      | [] => some 0
      | ':' :: rest =>
        match field? 2 2 rest with
        | some (minutes, []) => some minutes
        | _ => none
      | _ => none
    let seconds : Int := hours * 3600 + minutes * 60
    return some (if sign = '-' then -seconds else seconds)

/-- The parts of a written day, and of the time behind it where there is one. -/
def instant? (cs : List Char) : Option (Date × Option Moment) := do
  let (year, cs) ← field? 4 4 cs
  let (month, cs) ← field? 1 2 (← Meaning.afterChar? '-' cs)
  let (day, cs) ← field? 1 2 (← Meaning.afterChar? '-' cs)
  let date : Date := ⟨year, month, day⟩
  if cs.isEmpty then return (date, none)
  let (hour, cs) ← field? 1 2 (← Meaning.afterDay? cs)
  let (minute, cs) ← field? 2 2 (← Meaning.afterChar? ':' cs)
  let (second, cs) ← field? 2 2 (← Meaning.afterChar? ':' cs)
  let (micro, cs) := fraction cs
  return (date, some ⟨date, hour, minute, second, micro, ← zone? cs⟩)

/-- A day, if the calendar has it. -/
def checkDate (d : Date) : Except Failure RealDate :=
  if d.year = 0 then invalid "year 0 is out of range"
  else if (Date.daysIn? d.year d.month).isNone then invalid "month must be in 1..12"
  else if isReal : d.IsReal then pure { d with isReal }
  else invalid "day is out of range for month"

/-- A point in time, if a clock shows it and its time zone is less than a day away. -/
def checkMoment (m : Moment) : Except Failure RealMoment := do
  let offset := m.offset.getD 0
  if 86400 ≤ offset.natAbs then
    invalid ("offset must be a timedelta strictly between -timedelta(hours=24) and "
      ++ "timedelta(hours=24), not " ++ Value.displaySpan offset ++ ".")
  let _ ← checkDate m.date
  if 24 ≤ m.hour then invalid "hour must be in 0..23"
  if 60 ≤ m.minute then invalid "minute must be in 0..59"
  if isReal : m.IsReal then return { m with isReal } else invalid "second must be in 0..59"

/-- The text without a line feed at its end. -/
def dropLineEnd (cs : List Char) : List Char :=
  if cs.getLast? = some '\n' then cs.dropLast else cs

/-- A day, or a day and a time. -/
def timestamp (t : Text) : Except Failure Value :=
  match ((Text.chars? t).map dropLineEnd).bind instant? with
  | none => throw .unreadableTimestamp
  | some (date, none) => Value.date <$> checkDate date
  | some (_, some m) => Value.moment <$> checkMoment m

/-! ## All kinds -/

/-- Bytes in base 64. -/
def binary (t : Text) : Except Failure Value :=
  match t.chars?.bind fun cs => if cs.all (·.toNat < 128) then Base64.decode? cs else none with
  | some bs => pure (.bytes bs)
  | none => throw .malformed

/-- The value of a text under a tag. -/
def value (meaning : Meaning) (t : Text) : Except Failure Value :=
  match meaning with
  | .null => pure .null
  | .truth => truth t
  | .integer => integer t
  | .float => float t
  | .timestamp => timestamp t
  | .text => pure (.str t)
  | .binary => binary t
  | _ => throw .malformed

end ImportPolicy.Yaml.Scalar
