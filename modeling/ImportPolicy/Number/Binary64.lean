/-! # Binary floating point numbers

A `Binary64` is a double given by its bits, so that equality is decidable and every operation is
exact arithmetic on natural numbers.

* `Binary64.ofRatio` — the double nearest to a ratio, ties to even.
* `Binary64.ofDecimal` — the double nearest to a decimal.
* `Binary64.kind` — what a double stands for.
* `Binary64.toInt?` — the integer that a double equals.
* `Binary64.add`, `Binary64.mul`, `Binary64.neg` — arithmetic, rounded to nearest. -/

namespace ImportPolicy

/-- A double precision number by its bits. -/
structure Binary64 where
  bits : UInt64
  deriving DecidableEq, Inhabited

namespace Binary64

/-- What a double stands for: `significand · 2 ^ exponent` with a sign, an infinity, or no
    number. -/
inductive Kind where
  | finite (negative : Bool) (significand : Nat) (exponent : Int)
  | infinite (negative : Bool)
  | notANumber
  deriving DecidableEq

/-- The sign bit. -/
def negative (x : Binary64) : Bool := Nat.pow 2 63 ≤ x.bits.toNat

/-- Reads a double's fields. -/
def kind (x : Binary64) : Kind :=
  let biased := x.bits.toNat / Nat.pow 2 52 % Nat.pow 2 11
  let fraction := x.bits.toNat % Nat.pow 2 52
  if biased = 2047 then
    if fraction = 0 then .infinite x.negative else .notANumber
  else if biased = 0 then .finite x.negative fraction (-1074)
  else .finite x.negative (fraction + Nat.pow 2 52) (Int.ofNat biased - 1075)

/-- The double with a sign and the other bits. -/
def ofMagnitude (negative : Bool) (magnitude : Nat) : Binary64 :=
  ⟨UInt64.ofNat (if negative then Nat.pow 2 63 + magnitude else magnitude)⟩

/-- The bits of infinity. -/
def infinityBits : Nat := 2047 * Nat.pow 2 52

/-- Infinity with a sign. -/
def infinity (negative : Bool) : Binary64 := ofMagnitude negative infinityBits

/-- A double that is no number. -/
def nan : Binary64 := ⟨UInt64.ofNat (infinityBits + Nat.pow 2 51)⟩

/-- The quotient rounded to the nearest natural number, ties to even. -/
def roundDiv (num den : Nat) : Nat :=
  let quotient := num / den
  let twice := 2 * (num % den)
  if twice < den then quotient
  else if den < twice then quotient + 1
  else quotient + quotient % 2

/-- The double nearest to `num / den`, ties to even. -/
def ofRatio (negative : Bool) (num den : Nat) : Binary64 :=
  if num = 0 then ofMagnitude negative 0
  else
    let guess : Int := Int.ofNat num.log2 - Int.ofNat den.log2 - 53
    let scaled (q : Int) : Nat × Nat :=
      if q < 0 then (num * Nat.pow 2 (-q).toNat, den) else (num, den * Nat.pow 2 q.toNat)
    let wide := scaled guess
    -- The guess leaves 53 bits before the point, or one more.
    let fit := if wide.2 * Nat.pow 2 53 ≤ wide.1 then guess + 1 else guess
    let exponent := max (-1074) fit
    let final := scaled exponent
    -- Rounding up past the largest significand carries into the field of the exponent.
    let magnitude := (exponent + 1074).toNat * Nat.pow 2 52 + roundDiv final.1 final.2
    if infinityBits ≤ magnitude then infinity negative else ofMagnitude negative magnitude

/-- The double nearest to `digits · 10 ^ exponent`. Decimals far outside the range are infinite or
    zero without being computed. -/
def ofDecimal (negative : Bool) (digits : Nat) (exponent : Int) : Binary64 :=
  if digits = 0 then ofMagnitude negative 0
  else
    let magnitude := exponent + Int.ofNat (Nat.toDigits 10 digits).length
    if magnitude > 400 then infinity negative
    else if magnitude < -400 then ofMagnitude negative 0
    else if exponent < 0 then ofRatio negative digits (Nat.pow 10 (-exponent).toNat)
    else ofRatio negative (digits * Nat.pow 10 exponent.toNat) 1

/-- The integer that a double equals, if there is one. -/
def toInt? (x : Binary64) : Option Int :=
  match x.kind with
  | .finite negative significand exponent =>
    let magnitude? : Option Nat :=
      if 0 ≤ exponent then some (significand * Nat.pow 2 exponent.toNat)
      else if significand % Nat.pow 2 (-exponent).toNat = 0 then
        some (significand / Nat.pow 2 (-exponent).toNat)
      else none
    magnitude?.map fun n => if negative then -Int.ofNat n else Int.ofNat n
  | _ => none

/-- The double nearest to a quotient with a sign. -/
def ofQuotient (num : Int) (den : Nat) : Binary64 := ofRatio (num < 0) num.natAbs den

/-- A finite double as a quotient. -/
def toQuotient? (x : Binary64) : Option (Int × Nat) :=
  match x.kind with
  | .finite negative significand exponent =>
    let num := significand * Nat.pow 2 exponent.toNat
    some (if negative then -Int.ofNat num else Int.ofNat num, Nat.pow 2 (-exponent).toNat)
  | _ => none

/-- The double nearest to the sum of two finite doubles; no number if one is not finite. -/
def add (x y : Binary64) : Binary64 :=
  match x.toQuotient?, y.toQuotient? with
  | some (a, b), some (c, d) => ofQuotient (a * Int.ofNat d + c * Int.ofNat b) (b * d)
  | _, _ => nan

/-- The double nearest to the product of two finite doubles; no number if one is not finite. -/
def mul (x y : Binary64) : Binary64 :=
  match x.toQuotient?, y.toQuotient? with
  | some (a, b), some (c, d) => ofQuotient (a * c) (b * d)
  | _, _ => nan

/-- The double with the other sign. -/
def neg (x : Binary64) : Binary64 := ⟨x.bits ^^^ UInt64.ofNat (Nat.pow 2 63)⟩

/-- Whether two doubles are equal as numbers: the two zeros are, and no number equals nothing. -/
def sameNumber (x y : Binary64) : Bool :=
  match x.kind, y.kind with
  | .notANumber, _ => false
  | _, .notANumber => false
  | .finite _ 0 _, .finite _ 0 _ => true
  | _, _ => x = y

end Binary64

end ImportPolicy
