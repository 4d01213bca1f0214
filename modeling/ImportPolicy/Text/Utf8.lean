import ImportPolicy.Text.Basic

/-! # UTF-8

The encoding of characters as bytes, and the reader that accepts exactly the shortest encodings of
scalar values.

* `Utf8.width` — how many bytes a character takes.
* `Utf8.encode`, `Utf8.decode?` — writing and reading.
* `Text.bytes?` — the bytes of a text; a lone surrogate has none. -/

namespace ImportPolicy

namespace Utf8

/-- The number of bytes that encode a character. -/
def width (c : Char) : Nat :=
  if c.toNat < 0x80 then 1
  else if c.toNat < 0x800 then 2
  else if c.toNat < 0x10000 then 3
  else 4

/-- A continuation byte with the low six bits of a number. -/
def continuation (n : Nat) : UInt8 := UInt8.ofNat (0x80 + n % 0x40)

/-- The bytes of a character. -/
def encodeChar (c : Char) : List UInt8 :=
  let n := c.toNat
  if n < 0x80 then [UInt8.ofNat n]
  else if n < 0x800 then [UInt8.ofNat (0xC0 + n / 0x40), continuation n]
  else if n < 0x10000 then
    [UInt8.ofNat (0xE0 + n / 0x1000), continuation (n / 0x40), continuation n]
  else
    [UInt8.ofNat (0xF0 + n / 0x40000), continuation (n / 0x1000), continuation (n / 0x40),
      continuation n]

/-- The bytes of a list of characters. -/
def encode (cs : List Char) : List UInt8 := cs.flatMap encodeChar

/-- The six bits of a continuation byte. -/
def tail? (b : UInt8) : Option Nat :=
  if 0x80 ≤ b.toNat ∧ b.toNat < 0xC0 then some (b.toNat - 0x80) else none

/-- The character with a number in a range; surrogates have none. -/
def charFrom? (least n : Nat) : Option Char :=
  if h : least ≤ n ∧ n.isValidChar then some (Char.ofNatAux n h.2) else none

/-- The characters that some bytes encode, if they are well-formed. -/
def decode? : List UInt8 → Option (List Char)
  | [] => some []
  | a :: rest =>
    let n := a.toNat
    if n < 0x80 then do
      let c ← charFrom? 0 n
      return c :: (← decode? rest)
    else if 0xC2 ≤ n ∧ n < 0xE0 then
      match rest with
      | b :: rest => do
        let c ← charFrom? 0x80 ((n - 0xC0) * 0x40 + (← tail? b))
        return c :: (← decode? rest)
      | _ => none
    else if 0xE0 ≤ n ∧ n < 0xF0 then
      match rest with
      | b :: c :: rest => do
        let c ← charFrom? 0x800 (((n - 0xE0) * 0x40 + (← tail? b)) * 0x40 + (← tail? c))
        return c :: (← decode? rest)
      | _ => none
    else if 0xF0 ≤ n ∧ n < 0xF5 then
      match rest with
      | b :: c :: d :: rest => do
        let c ← charFrom? 0x10000
          ((((n - 0xF0) * 0x40 + (← tail? b)) * 0x40 + (← tail? c)) * 0x40 + (← tail? d))
        return c :: (← decode? rest)
      | _ => none
    else none

end Utf8

namespace Text

/-- The bytes of a text without lone surrogates. -/
def bytes? (t : Text) : Option (List UInt8) := (chars? t).map Utf8.encode

end Text

end ImportPolicy
