import ImportPolicy.Proofs.Script.Hexadecimal
import ImportPolicy.Script.Imports

/-! # Escapes that have a text

Every escape that the grammar of literals accepts has a text, but for a number in braces that does
not fit in 32 bits with a sign.

* `NumberForm` — the three ways to write a number as an escape.
* `Escape.Accepted` — the escapes of the grammar.
* `Escape.decode_number` — the text of a number.
* `Escape.decodes_iff_not_tooLarge` — which accepted escapes have a text. -/

namespace ImportPolicy.Script

/-- How a number is written as an escape. -/
inductive NumberForm where
  | byte
  | unit
  | braces

/-- A number in a form, after the backslash. -/
def NumberForm.body : NumberForm → List Char → List Char
  | .byte, digits => 'x' :: digits
  | .unit, digits => 'u' :: digits
  | .braces, digits => 'u' :: '\x7b' :: (digits ++ ['\x7d'])

/-- Whether a form takes a number of digits. -/
def NumberForm.takes : NumberForm → Nat → Bool
  | .byte, count => count = 2
  | .unit, count => count = 4
  | .braces, count => 0 < count

/-- The digits may be written in a form. -/
structure NumberForm.Admits (form : NumberForm) (digits : List Char) : Prop where
  hex : ∀ d ∈ digits, isHex d = true
  count : form.takes digits.length = true

namespace Escape

/-- An escape has a text. -/
def Decodes (sequence : List Char) : Prop :=
  ∃ text, decode (Text.ofChars sequence) = .ok text

instance (sequence : List Char) : Decidable (Decodes sequence) :=
  match h : decode (Text.ofChars sequence) with
  | .ok text => .isTrue ⟨text, h⟩
  | .error _ => .isFalse fun ⟨_, denotes⟩ => by cases h.symm.trans denotes

/-- The escapes that the grammar of literals accepts: a backslash with a character that starts no
    number, with up to three octal digits, with a number, or with a carriage return and a line break
    after it. -/
inductive Accepted : List Char → Prop where
  | character {c : Char} (notHex : c ≠ 'x' ∧ c ≠ 'u') (notOctal : isOctal c = false) :
      Accepted ['\\', c]
  | octal {d : Char} {digits : List Char} (first : isOctal d = true)
      (octal : ∀ d ∈ digits, isOctal d = true) (count : digits.length ≤ 2) :
      Accepted ('\\' :: d :: digits)
  | number {form : NumberForm} {digits : List Char} (admits : form.Admits digits) :
      Accepted ('\\' :: form.body digits)
  | lineEnd {c : Char} (breaks : isBreak c = true) : Accepted ['\\', '\r', c]

/-- A number in braces that does not fit in 32 bits with a sign. -/
def TooLarge (sequence : List Char) : Prop :=
  ∃ digits, NumberForm.braces.Admits digits ∧
    sequence = '\\' :: NumberForm.braces.body digits ∧ 2 ^ 31 ≤ hexValue digits

/-! ## Numbers -/

theorem numberDigits_body {form : NumberForm} {digits : List Char} (admits : form.Admits digits) :
    numberDigits (Text.ofChars (form.body digits)) = Text.ofChars digits := by
  cases form with
  | byte => rfl
  | braces => simp [NumberForm.body, Text.ofChars, numberDigits]
  | unit =>
    cases digits with
    | nil => rfl
    | cons d rest =>
      have noBrace : ∀ c ∈ d :: rest, c ≠ '\x7b' := forall_of_isHex (by decide) admits.hex
      have notOpen := noBrace d List.mem_cons_self
      unfold numberDigits
      split
      next opened =>
        cases opened
        exact absurd rfl notOpen
      next plain =>
        cases plain
        rfl
      next empty => cases empty

/-- The text of a number: the code point with it, or what stands after the backslash if there is
    none. -/
theorem decode_number {form : NumberForm} {digits : List Char} (admits : form.Admits digits) :
    decode (Text.ofChars ('\\' :: form.body digits)) =
      if 2 ^ 31 ≤ hexValue digits then .error .numberTooLarge
      else .ok ((CodePoint.ofNat? (hexValue digits)).elim (Text.ofChars (form.body digits))
        ([·])) := by
  have nonempty : digits ≠ [] := by
    rintro rfl
    have count := admits.count
    cases form <;> cases count
  have numeric : decode (Text.ofChars ('\\' :: form.body digits)) =
      decodeNumber (Text.ofChars (form.body digits)) := by
    cases form with
    | byte => simp [decode, Text.ofChars, NumberForm.body, decodeBody, isLineEnd, nonempty]
    | unit => simp [decode, Text.ofChars, NumberForm.body, decodeBody, isLineEnd, nonempty]
    | braces => simp [decode, Text.ofChars, NumberForm.body, decodeBody, isLineEnd]
  rw [numeric, decodeNumber, numberDigits_body admits, hexadecimal?_ofChars nonempty admits.hex]
  have large : ((hexValue digits : Int) < -Bounds.int32 ∨ Bounds.int32 ≤ (hexValue digits : Int)) ↔
      2 ^ 31 ≤ hexValue digits := by
    simp only [Bounds.int32]
    omega
  have notNegative : ¬ (hexValue digits : Int) < 0 := by omega
  simp only [large, notNegative, if_false, Int.toNat_natCast]

/-! ## Accepted escapes -/

/-- What is no number always has a text. -/
theorem decodes_of_not_number {c : Char} (notNumber : c ≠ 'x' ∧ c ≠ 'u') (rest : List Char) :
    Decodes ('\\' :: c :: rest) := by
  obtain ⟨notByte, notUnit⟩ := notNumber
  simp only [Decodes, decode, Text.ofChars, List.map_cons, List.drop_succ_cons, List.drop_zero,
    decodeBody, notByte, notUnit, or_false, false_and, if_false]
  split
  · exact ⟨_, rfl⟩
  · split
    · exact ⟨_, rfl⟩
    · exact ⟨_, rfl⟩

theorem decodes_number_iff {form : NumberForm} {digits : List Char} (admits : form.Admits digits) :
    Decodes ('\\' :: form.body digits) ↔ hexValue digits < 2 ^ 31 := by
  rw [Decodes, decode_number admits]
  split
  next large =>
    constructor
    · rintro ⟨text, failed⟩
      cases failed
    · exact fun small => absurd large (Nat.not_le.2 small)
  next small => exact ⟨fun _ => Nat.not_le.1 small, fun _ => ⟨_, rfl⟩⟩

theorem TooLarge.not_decodes {sequence : List Char} (tooLarge : TooLarge sequence) :
    ¬ Decodes sequence := by
  obtain ⟨digits, admits, rfl, large⟩ := tooLarge
  rw [decodes_number_iff admits]
  exact Nat.not_lt_of_le large

/-- Only braces hold enough digits for a number that is too large. -/
theorem tooLarge_number {form : NumberForm} {digits : List Char} (admits : form.Admits digits)
    (large : 2 ^ 31 ≤ hexValue digits) : TooLarge ('\\' :: form.body digits) := by
  have bound := hexValue_lt admits.hex
  have count := admits.count
  cases form with
  | braces => exact ⟨digits, admits, rfl, large⟩
  | byte => rw [of_decide_eq_true count] at bound; omega
  | unit => rw [of_decide_eq_true count] at bound; omega

/-- An accepted escape has a text exactly if it is no number that is too large. -/
theorem decodes_iff_not_tooLarge {sequence : List Char} (accepted : Accepted sequence) :
    Decodes sequence ↔ ¬ TooLarge sequence := by
  constructor
  · intro decodes tooLarge
    exact tooLarge.not_decodes decodes
  · intro fits
    cases accepted with
    | character notHex _ => exact decodes_of_not_number notHex []
    | lineEnd _ => exact decodes_of_not_number (by decide) _
    | octal first _ _ =>
      apply decodes_of_not_number
      constructor <;> rintro rfl <;> cases first
    | number admits =>
      rw [decodes_number_iff admits]
      apply Nat.lt_of_not_le
      intro large
      exact fits (tooLarge_number admits large)

end Escape

end ImportPolicy.Script
