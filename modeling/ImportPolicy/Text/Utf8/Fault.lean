import ImportPolicy.Text.Utf8
import ImportPolicy.Value.Display

/-! # Faults in UTF-8

* `Utf8.Fault` — where bytes stop being well-formed, and why.
* `Utf8.fault?` — the first fault in some bytes. -/

namespace ImportPolicy.Utf8

/-- Why bytes encode no character. -/
inductive FaultKind where
  | start
  | continuation
  | unfinished
  deriving DecidableEq

/-- The wording of a reason. -/
def FaultKind.text : FaultKind → String
  | .start => "invalid start byte"
  | .continuation => "invalid continuation byte"
  | .unfinished => "unexpected end of data"

/-- The bytes that encode no character, with their position. -/
structure Fault where
  kind : FaultKind
  position : Nat
  bytes : List UInt8
  deriving DecidableEq

/-- The wording of a fault. -/
def Fault.message (f : Fault) : Text :=
  let place : Text := match f.bytes with
    | [b] => "byte 0x" ++ Text.ofChars (Text.hexDigits 2 b.toNat) ++ " in position "
        ++ Text.ofNat f.position
    | bytes => "bytes in position " ++ Text.ofNat f.position ++ "-"
        ++ Text.ofNat (f.position + bytes.length - 1)
  "'utf-8' codec can't decode " ++ place ++ ": " ++ Text.ofString f.kind.text

/-- The ranges of the bytes that may follow a first byte; none if it starts no character. -/
def followers? (first : Nat) : Option (List (Nat × Nat)) :=
  let any := (0x80, 0xBF)
  if first < 0x80 then some []
  else if first < 0xC2 then none
  else if first < 0xE0 then some [any]
  else if first = 0xE0 then some [(0xA0, 0xBF), any]
  else if first = 0xED then some [(0x80, 0x9F), any]
  else if first < 0xF0 then some [any, any]
  else if first = 0xF0 then some [(0x90, 0xBF), any, any]
  else if first < 0xF4 then some [any, any, any]
  else if first = 0xF4 then some [(0x80, 0x8F), any, any]
  else none

/-- How many of the bytes that are expected are there, and whether another one stands in place of
    the next. -/
def matched : List (Nat × Nat) → List UInt8 → Nat × Bool
  | [], _ => (0, false)
  | _ :: _, [] => (0, false)
  | (least, most) :: ranges, b :: rest =>
    if least ≤ b.toNat ∧ b.toNat ≤ most then
      let (count, other) := matched ranges rest
      (count + 1, other)
    else (0, true)

/-- The first fault in bytes from a position on, where `skip` bytes belong to the character before.
    A character that is cut off at the end is reported on its own, so that its position is
    zero. -/
def faultFrom (position skip : Nat) : List UInt8 → Option Fault
  | [] => none
  | b :: rest =>
    match skip with
    | skip + 1 => faultFrom (position + 1) skip rest
    | 0 =>
      match followers? b.toNat with
      | none => some ⟨.start, position, [b]⟩
      | some ranges =>
        let (count, other) := matched ranges rest
        if other then some ⟨.continuation, position, b :: rest.take count⟩
        else if count < ranges.length then some ⟨.unfinished, 0, b :: rest⟩
        else faultFrom (position + 1) count rest

/-- The first fault in some bytes. -/
def fault? (bytes : List UInt8) : Option Fault := faultFrom 0 0 bytes

end ImportPolicy.Utf8
