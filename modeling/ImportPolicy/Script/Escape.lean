import ImportPolicy.Number.Bounds
import ImportPolicy.Number.Numeral

/-! # Escapes of string literals

An escape is a backslash followed by its body. The body is a letter with a meaning of its own, a
hexadecimal number after `x`, `u` or between `u` and braces, a line end, or any other character,
which then stands for itself.

* `Escape.decode` — the text of an escape; it fails only when a number is too large to be looked
  at as a code point. -/

namespace ImportPolicy.Script.Escape

/-- Why an escape has no text: its number does not fit in 32 bits with a sign. -/
inductive Error where
  | numberTooLarge
  deriving DecidableEq

/-- The characters that end a line in a script. -/
def isLineEnd (c : Char) : Bool :=
  c = '\n' || c = '\r' || c.toNat = 0x2028 || c.toNat = 0x2029

/-- The character of an escape with a single letter. -/
def letter? : Char → Option Char
  | 'b' => some (Char.ofNat 0x08)
  | 'f' => some (Char.ofNat 0x0C)
  | 'n' => some '\n'
  | 'r' => some '\r'
  | 't' => some '\t'
  | 'v' => some (Char.ofNat 0x0B)
  | '0' => some (Char.ofNat 0)
  | _ => none

/-- The digits of a numeric body: what stands between braces, or all after the letter. -/
def numberDigits : Text → Text
  | .scalar 'u' :: .scalar '{' :: rest => rest.dropLast
  | _ :: rest => rest
  | [] => []

/-- The text of a numeric body. A number that is no code point leaves the body as it is. -/
def decodeNumber (body : Text) : Except Error Text :=
  match Numeral.hexadecimal? (numberDigits body) with
  | none => .ok body
  | some n =>
    if n < -Bounds.int32 ∨ Bounds.int32 ≤ n then .error .numberTooLarge
    else if n < 0 then .ok body
    else .ok ((CodePoint.ofNat? n.toNat).elim body ([·]))

/-- The text of the body of an escape. -/
def decodeBody (body : Text) : Except Error Text :=
  match body with
  | [] => .ok []
  | .surrogate _ :: _ => .ok body
  | .scalar c :: rest =>
    if isLineEnd c then .ok []
    else if (c = 'x' ∨ c = 'u') ∧ rest ≠ [] then decodeNumber body
    else if rest = [] then .ok [(letter? c).getD c]
    else .ok body

/-- The text of an escape, whose first code point is the backslash. -/
def decode (sequence : Text) : Except Error Text := decodeBody (sequence.drop 1)

end ImportPolicy.Script.Escape
