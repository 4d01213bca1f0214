import ImportPolicy.Number.Binary64
import ImportPolicy.Number.Bounds
import ImportPolicy.Text.Utf8
import ImportPolicy.Value.Calendar

/-! # Written points in time

Reads a point in time from text in the form of ISO 8601 or from a count of seconds.

* `Instant.day` — a day such as `2024-01-02` at the start of a text.
* `Instant.moment?` — a day and a time such as `2024-01-02T03:04:05.5+02:00`.
* `Instant.ofCount` — the point in time so many seconds after the start of 1970; a large count is
  one of milliseconds.
* `Instant.ofText` — any of these as a text. -/

namespace ImportPolicy.Instant

/-- The value of an ASCII digit. -/
def digit? (c : Char) : Option Nat :=
  if '0' ≤ c ∧ c ≤ '9' then some (c.toNat - 0x30) else none

/-- The number that digits spell. -/
def number? (cs : List Char) : Option Nat :=
  cs.foldlM (fun n c => (digit? c).map (n * 10 + ·)) 0

/-- A number in an exact count of digits at the start of a text, and the rest. -/
def digits (count : Nat) (failure : String) (cs : List Char) : Except String (Nat × List Char) :=
  if cs.length < count then .error failure
  else match number? (cs.take count) with
    | some n => .ok (n, cs.drop count)
    | none => .error failure

/-- A dash between the parts of a day, and the rest. -/
def dash : List Char → Except String (List Char)
  | '-' :: rest => .ok rest
  | _ => .error "invalid date separator, expected \x60-\x60"

/-- A day at the start of a text, and the rest. -/
def day (cs : List Char) : Except String (Date × List Char) := do
  if cs.length < 10 then throw "input is too short"
  let (year, cs) ← digits 4 "invalid character in year" cs
  let cs ← dash cs
  let (month, cs) ← digits 2 "invalid character in month" cs
  let cs ← dash cs
  let (dayOfMonth, cs) ← digits 2 "invalid character in day" cs
  match Date.daysIn? year month with
  | none => throw "month value is outside expected range of 1-12"
  | some last =>
    if dayOfMonth < 1 ∨ last < dayOfMonth then throw "day value is outside expected range"
    else return (⟨year, month, dayOfMonth⟩, cs)

/-- Microseconds from the digits of a fraction of a second; further digits are dropped. -/
def fraction? : List Char → Option (Nat × List Char)
  | cs =>
    let ds := cs.takeWhile fun c => (digit? c).isSome
    if ds.isEmpty then none
    else (number? ((ds ++ List.replicate 6 '0').take 6)).map fun n =>
      (n, cs.drop ds.length)

/-- Two digits as a number below a bound. -/
def pair? (bound : Nat) (cs : List Char) : Option (Nat × List Char) := do
  let (n, cs) ← (digits 2 "" cs).toOption
  if n < bound then some (n, cs) else none

/-- Seconds and microseconds after a colon, if there are any. -/
def seconds? : List Char → Option (Nat × Nat × List Char)
  | ':' :: cs => do
    let (second, cs) ← pair? 60 cs
    match cs with
    | '.' :: more | ',' :: more =>
      let (micro, cs) ← fraction? more
      some (second, micro, cs)
    | _ => some (second, 0, cs)
  | cs => some (0, 0, cs)

/-- Hours and minutes of a distance from universal time, with or without a colon, as seconds. -/
def offsetSeconds? (cs : List Char) : Option Int := do
  let (hours, cs) ← pair? 100 cs
  let (minutes, cs) ← pair? 60 (match cs with
    | ':' :: more => more
    | _ => cs)
  let total := hours * 3600 + minutes * 60
  if cs.isEmpty ∧ total < 86400 then some (Int.ofNat total) else none

/-- The distance from universal time that ends a text; none is written if the text is empty. The
    minus sign of typography counts as a minus; its three bytes come one by one. -/
def offset? : List Char → Option (Option Int)
  | [] => some none
  | ['Z'] | ['z'] => some (some 0)
  | '+' :: cs => (offsetSeconds? cs).map some
  | '-' :: cs => (offsetSeconds? cs).map fun s => some (-s)
  | '\xE2' :: '\x88' :: '\x92' :: cs => (offsetSeconds? cs).map fun s => some (-s)
  | _ => none

/-- A day and a time. -/
def moment? (cs : List Char) : Option Moment := do
  let (date, cs) ← (day cs).toOption
  match cs with
  | 'T' :: cs | 't' :: cs | ' ' :: cs | '_' :: cs =>
    let (hour, cs) ← pair? 24 cs
    match cs with
    | ':' :: cs =>
      let (minute, cs) ← pair? 60 cs
      let (second, micro, cs) ← seconds? cs
      let offset ← offset? cs
      some ⟨date, hour, minute, second, micro, offset⟩
    | _ => none
  | _ => none

/-- The point in time after a whole count and some microseconds. A count beyond twenty thousand
    million is one of milliseconds. -/
def ofCount (count : Int) (micro : Nat) : Except String Moment :=
  let inMillis := decide (20000000000 < count.natAbs)
  let seconds := if inMillis then Int.fdiv count 1000 else count
  let total := micro + (if inMillis then (Int.fmod count 1000).toNat * 1000 else 0)
  let seconds := seconds + Int.ofNat (total / 1000000)
  if seconds < -11676096000 then .error "dates before 1600 are not supported as unix timestamps"
  else if 253402300799 < seconds then
    .error "dates after 9999 are not supported as unix timestamps"
  else .ok (Moment.ofSeconds seconds (total % 1000000))

/-- The point in time of a count that is a double. Its whole part is rounded down, and the distance
    to the next whole number towards zero gives the microseconds. -/
def ofDouble (x : Binary64) : Except String Moment :=
  match x.kind with
  | .notANumber => .error "NaN values not permitted"
  | .infinite negative => ofCount (if negative then -Bounds.int64 else Bounds.int64 - 1) 0
  | .finite negative significand exponent =>
    let num := significand * Nat.pow 2 exponent.toNat
    let den := Nat.pow 2 (-exponent).toNat
    let signed : Int := if negative then -Int.ofNat num else Int.ofNat num
    ofCount (Int.fdiv signed (Int.ofNat den)) ((num % den * 2000000 + den) / (2 * den))

/-- A count written with an optional sign and an optional fraction. -/
def count? (cs : List Char) : Option (Except String Moment) :=
  let negative := cs.head? = some '-'
  let cs := match cs with
    | '-' :: more => more
    | '+' :: more => more
    | _ => cs
  let whole := cs.takeWhile fun c => (digit? c).isSome
  if whole.isEmpty then none
  else match number? whole, cs.drop whole.length with
    | some n, [] =>
      if n < Bounds.int64 then some (ofCount (if negative then -Int.ofNat n else Int.ofNat n) 0) else none
    | some _, '.' :: ds =>
      (number? (whole ++ ds)).map fun m =>
        ofDouble (Binary64.ofDecimal negative m (-Int.ofNat ds.length))
    | _, _ => none

/-- The text of a day, a day and a time, or a count. What fits none is refused for the reason that
    it is no day. -/
def ofText (cs : List Char) : Except String Moment :=
  match moment? cs with
  | some m => .ok m
  | none =>
    match day cs, count? cs with
    | _, some (.ok m) => .ok m
    | .ok (date, []), _ => .ok (Moment.midnight date)
    | .ok _, _ => .error "unexpected extra characters at the end of the input"
    | .error _, some (.error reason) => .error reason
    | .error reason, none => .error reason

end ImportPolicy.Instant
