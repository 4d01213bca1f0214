import ImportPolicy.Number.Binary64
import ImportPolicy.Number.Numeral

/-! # Decimals

Reads a double from a decimal numeral, which blanks may surround and a sign may precede.

* `Decimal.double?` — the double nearest to a decimal. -/

namespace ImportPolicy.Decimal

/-- A run of digits with single underscores between them, without the underscores. -/
def run? (cs : List Char) : Option (List Char × List Char) :=
  let isPart (c : Char) : Bool := ('0' ≤ c && c ≤ '9') || c = '_'
  let word := cs.takeWhile isPart
  let rest := cs.drop word.length
  if word.isEmpty then some ([], rest)
  else (Numeral.digitsOf? word).map fun digits => (digits, rest)

/-- The exponent behind the letter `e`, or zero at the end of the numeral. -/
def exponent? : List Char → Option Int
  | [] => some 0
  | e :: cs =>
    if e = 'e' ∨ e = 'E' then do
      let (negative, cs) := match cs with
        | '-' :: rest => (true, rest)
        | '+' :: rest => (false, rest)
        | cs => (false, cs)
      let (digits, rest) ← run? cs
      if digits.isEmpty ∨ rest ≠ [] then none
      else
        let n ← Numeral.ofDigits? 10 0 digits
        some (if negative then -Int.ofNat n else Int.ofNat n)
    else none

/-- A decimal without a sign. -/
def magnitude? (negative : Bool) (cs : List Char) : Option Binary64 := do
  let (whole, rest) ← run? cs
  let (fraction, rest) ← match rest with
    | '.' :: rest => run? rest
    | _ => some ([], rest)
  if whole.isEmpty ∧ fraction.isEmpty then none
  else
    let n ← Numeral.ofDigits? 10 0 (whole ++ fraction)
    let e ← exponent? rest
    some (Binary64.ofDecimal negative n (e - Int.ofNat fraction.length))

/-- The double of a decimal, or of a word for infinity or for no number. -/
def double? (t : Text) : Option Binary64 := do
  let ascii ← Numeral.toAscii? t
  let (negative, unsigned) :=
    match Numeral.trim ascii with
    | '-' :: rest => (true, rest)
    | '+' :: rest => (false, rest)
    | cs => (false, cs)
  let word := String.ofList (unsigned.map Char.toLower)
  if word = "inf" ∨ word = "infinity" then some (Binary64.infinity negative)
  else if word = "nan" then some Binary64.nan
  else magnitude? negative unsigned

end ImportPolicy.Decimal
