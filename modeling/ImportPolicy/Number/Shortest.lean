import ImportPolicy.Number.Binary64
import ImportPolicy.Text.Basic

/-! # The shortest decimal of a double

Among the decimals that read back as a double, the one with the fewest digits is chosen, and of
those the one nearest to the double.

* `Shortest.digits` — the digits and the decimal exponent of a positive double.
* `Binary64.spell` — the spelling: positional from 10^-4 up to 10^16, else with an exponent. -/

namespace ImportPolicy

namespace Shortest

/-- The numbers that round to `significand · 2 ^ exponent`, as fractions of `scale`. The ends
    belong to the interval if the significand is even. -/
structure Interval where
  low : Nat
  value : Nat
  high : Nat
  scale : Nat
  closed : Bool

/-- The interval of a double. Below a power of two the neighbour is only half as far. -/
def Interval.of (significand : Nat) (exponent : Int) : Interval :=
  let below := if significand = Nat.pow 2 52 ∧ -1074 < exponent then 1 else 2
  let up := Nat.pow 2 exponent.toNat
  let scale := 4 * Nat.pow 2 (-exponent).toNat
  { low := (4 * significand - below) * up
    value := 4 * significand * up
    high := (4 * significand + 2) * up
    scale := scale
    closed := significand % 2 = 0 }

/-- Whether `digits · 10 ^ power` reads back as the double. -/
def Interval.holds (i : Interval) (digits : Nat) (power : Int) : Bool :=
  let lift := Nat.pow 10 (-power).toNat
  let here := digits * Nat.pow 10 power.toNat * i.scale
  if i.closed then i.low * lift ≤ here && here ≤ i.high * lift
  else i.low * lift < here && here < i.high * lift

/-- The largest power of ten that is not above `num / den`. -/
def decimalExponent (num den : Nat) : Int :=
  if den ≤ num then Int.ofNat (Nat.toDigits 10 (num / den)).length - 1
  else
    let rec search : Nat → Nat → Int
      | 0, n => -Int.ofNat n
      | fuel + 1, n => if den ≤ num * Nat.pow 10 n then -Int.ofNat n else search fuel (n + 1)
    search 400 1

/-- The first of the candidates with `count` digits or more that reads back. -/
def Interval.search (i : Interval) (top : Int) : Nat → Nat → Nat × Int
  | 0, count => (i.value / i.scale, Int.ofNat count)
  | fuel + 1, count =>
    let power := top - Int.ofNat count + 1
    let num := i.value * Nat.pow 10 (-power).toNat
    let den := i.scale * Nat.pow 10 power.toNat
    let floor := num / den
    let rest := num % den
    -- Only the two neighbours of the value on this grid can be in the interval.
    match i.holds floor power, i.holds (floor + 1) power with
    | true, true =>
      if 2 * rest < den ∨ (2 * rest = den ∧ floor % 2 = 0) then (floor, power)
      else (floor + 1, power)
    | true, false => (floor, power)
    | false, true => (floor + 1, power)
    | false, false => i.search top fuel (count + 1)

/-- Without the zeros at the end. -/
def dropZeros : Nat → Nat → Int → Nat × Int
  | 0, digits, power => (digits, power)
  | fuel + 1, digits, power =>
    if digits % 10 = 0 ∧ digits ≠ 0 then dropZeros fuel (digits / 10) (power + 1)
    else (digits, power)

/-- The digits and the power of ten of the shortest decimal of a positive double. -/
def digits (significand : Nat) (exponent : Int) : Nat × Int :=
  let i := Interval.of significand exponent
  let found := i.search (decimalExponent i.value i.scale) 17 1
  dropZeros 400 found.1 found.2

end Shortest

namespace Binary64

/-- The decimal with the point after `point` of its digits. -/
def positional (digits : List Char) (point : Int) : List Char :=
  if point ≤ 0 then '0' :: '.' :: (List.replicate (-point).toNat '0' ++ digits)
  else
    let whole := digits.take point.toNat
    let fraction := digits.drop point.toNat
    whole ++ List.replicate (point.toNat - whole.length) '0' ++
      '.' :: (if fraction.isEmpty then ['0'] else fraction)

/-- The digits with a point after the first, and an exponent of two digits at least. -/
def scientific (digits : List Char) (exponent : Int) : List Char :=
  let fraction := digits.drop 1
  let magnitude := Nat.toDigits 10 exponent.natAbs
  digits.take 1 ++ (if fraction.isEmpty then [] else '.' :: fraction) ++
    'e' :: (if exponent < 0 then '-' else '+') ::
      (List.replicate (2 - magnitude.length) '0' ++ magnitude)

/-- The spelling of a double. -/
def spell (x : Binary64) : Text :=
  match x.kind with
  | .notANumber => "nan"
  | .infinite negative => if negative then "-inf" else "inf"
  | .finite negative significand exponent =>
    let body :=
      if significand = 0 then ['0', '.', '0']
      else
        let shortest := Shortest.digits significand exponent
        let digits := Nat.toDigits 10 shortest.1
        let point := Int.ofNat digits.length + shortest.2
        if -4 < point ∧ point ≤ 16 then positional digits point
        else scientific digits (point - 1)
    Text.ofChars (if negative then '-' :: body else body)

end Binary64

end ImportPolicy
