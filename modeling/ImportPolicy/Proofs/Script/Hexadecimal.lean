import ImportPolicy.Number.Numeral
import ImportPolicy.Script.Lexical
import Mathlib.Algebra.Group.Nat.Defs

/-! # Hexadecimal digits of escapes

What stands in an escape as a number is a row of hexadecimal digits. Of all that a numeral may be,
with blanks, a sign, a mark of its base and underscores, such a row uses nothing but digits.

* `hexDigit`, `hexValue` — the value of a digit and of a row of digits.
* `hexValue_lt` — few digits have a small value.
* `hexadecimal?_ofChars` — a row of digits is read as its value. -/

namespace ImportPolicy.Script

/-- The value of a hexadecimal digit. -/
def hexDigit (c : Char) : Nat :=
  if c ≤ '9' then c.toNat - '0'.toNat
  else if c ≤ 'F' then c.toNat - 'A'.toNat + 10
  else c.toNat - 'a'.toNat + 10

/-- The value of a row of hexadecimal digits, the most significant first. -/
def hexValue (digits : List Char) : Nat := digits.foldl (fun n c => n * 16 + hexDigit c) 0

/-- The hexadecimal digits. -/
def hexDigits : List Char := "0123456789ABCDEFabcdef".toList

theorem mem_hexDigits_of_isHex {c : Char} (hex : isHex c = true) : c ∈ hexDigits := by
  have bound : c.toNat < 0x67 := by
    simp only [isHex, Bool.or_eq_true, Bool.and_eq_true, decide_eq_true_eq, Char.le_def,
      UInt32.le_iff_toNat_le] at hex
    rcases hex with (⟨-, upper⟩ | ⟨-, upper⟩) | ⟨-, upper⟩
    · exact Nat.lt_of_le_of_lt upper (by decide)
    · exact Nat.lt_of_le_of_lt upper (by decide)
    · exact Nat.lt_of_le_of_lt upper (by decide)
  have all : ∀ n < 0x67, isHex (Char.ofNat n) = true → Char.ofNat n ∈ hexDigits := by decide
  have member := all c.toNat bound
  rw [Char.ofNat_toNat] at member
  exact member hex

variable {digits : List Char}

/-- What holds of the twenty-two digits holds of all digits of a row. -/
theorem forall_of_isHex {P : Char → Prop} [DecidablePred P] (all : hexDigits.all P = true)
    (hex : ∀ d ∈ digits, isHex d = true) : ∀ d ∈ digits, P d := fun d member =>
  of_decide_eq_true (List.all_eq_true.1 all d (mem_hexDigits_of_isHex (hex d member)))

theorem foldl_hexDigit_lt (hex : ∀ d ∈ digits, isHex d = true) (value : Nat) :
    digits.foldl (fun n c => n * 16 + hexDigit c) value < (value + 1) * 16 ^ digits.length := by
  induction digits generalizing value with
  | nil => simp
  | cons d rest ih =>
    have small : ∀ c ∈ d :: rest, hexDigit c < 16 := forall_of_isHex (by decide) hex
    have bound := small d List.mem_cons_self
    have more := ih (fun d member => hex d (List.mem_cons_of_mem _ member))
      (value * 16 + hexDigit d)
    calc (d :: rest).foldl (fun n c => n * 16 + hexDigit c) value
        < (value * 16 + hexDigit d + 1) * 16 ^ rest.length := more
      _ ≤ ((value + 1) * 16) * 16 ^ rest.length := Nat.mul_le_mul_right _ (by omega)
      _ = (value + 1) * 16 ^ (d :: rest).length := by
        rw [List.length_cons, Nat.pow_succ', Nat.mul_assoc]

theorem hexValue_lt (hex : ∀ d ∈ digits, isHex d = true) :
    hexValue digits < 16 ^ digits.length := by
  have below := foldl_hexDigit_lt hex 0
  rwa [Nat.zero_add, Nat.one_mul] at below

/-! ## Reading digits -/

theorem toAscii?_ofChars (ascii : ∀ d ∈ digits, d.toNat < 127) :
    Numeral.toAscii? (Text.ofChars digits) = some digits := by
  induction digits with
  | nil => rfl
  | cons d rest ih =>
    have here := ascii d List.mem_cons_self
    have more := ih fun d member => ascii d (List.mem_cons_of_mem _ member)
    have split : Text.ofChars (d :: rest) = .scalar d :: Text.ofChars rest := rfl
    rw [split, Numeral.toAscii?, more]
    simp [here]

theorem dropWhile_isSpace_eq_self (solid : ∀ d ∈ digits, Numeral.isSpace d = false) :
    digits.dropWhile Numeral.isSpace = digits := by
  cases digits with
  | nil => rfl
  | cons d rest => rw [List.dropWhile_cons, solid d List.mem_cons_self]; rfl

theorem trim_eq_self (solid : ∀ d ∈ digits, Numeral.isSpace d = false) :
    Numeral.trim digits = digits := by
  have backwards : ∀ d ∈ digits.reverse, Numeral.isSpace d = false := by
    intro d member
    exact solid d (List.mem_reverse.1 member)
  rw [Numeral.trim, dropWhile_isSpace_eq_self solid, dropWhile_isSpace_eq_self backwards,
    List.reverse_reverse]

theorem digitsOf?_eq_self (nonempty : digits ≠ []) (plain : ∀ d ∈ digits, d ≠ '_') :
    Numeral.digitsOf? digits = some digits := by
  fun_induction Numeral.digitsOf? digits with
  | case1 => exact absurd rfl nonempty
  | case2 => exact absurd rfl (plain '_' List.mem_cons_self)
  | case3 => rfl
  | case4 => exact absurd rfl (plain '_' List.mem_cons_self)
  | case5 c rest => exact absurd rfl (plain '_' (by simp))
  | case6 c rest _ single _ _ ih =>
    rw [ih single fun d member => plain d (List.mem_cons_of_mem _ member)]
    rfl

theorem ofDigits?_eq_foldl (hex : ∀ d ∈ digits, isHex d = true) (value : Nat) :
    Numeral.ofDigits? 16 value digits =
      some (digits.foldl (fun n c => n * 16 + hexDigit c) value) := by
  induction digits generalizing value with
  | nil => rfl
  | cons d rest ih =>
    have digit : ∀ c ∈ d :: rest, Numeral.digit? c = some (hexDigit c) :=
      forall_of_isHex (by decide) hex
    have small : ∀ c ∈ d :: rest, hexDigit c < 16 := forall_of_isHex (by decide) hex
    have more := ih (fun d member => hex d (List.mem_cons_of_mem _ member))
    rw [Numeral.ofDigits?, digit d List.mem_cons_self, List.foldl_cons, ← more]
    exact if_pos (small d List.mem_cons_self)

theorem dropMark_eq_self (plain : ∀ d ∈ digits, d.toLower ≠ 'x') :
    Numeral.dropMark 16 digits = digits := by
  unfold Numeral.dropMark
  split
  next letter rest =>
    have noMark : Numeral.baseLetter? 16 ≠ some letter.toLower := by
      intro marked
      exact plain letter (by simp) (Option.some.inj marked).symm
    rw [if_neg noMark]
  · rfl

theorem hexadecimal?_ofChars (nonempty : digits ≠ []) (hex : ∀ d ∈ digits, isHex d = true) :
    Numeral.hexadecimal? (Text.ofChars digits) = some (hexValue digits : Int) := by
  have ascii : ∀ d ∈ digits, d.toNat < 127 := forall_of_isHex (by decide) hex
  have solid : ∀ d ∈ digits, Numeral.isSpace d = false := forall_of_isHex (by decide) hex
  have unmarked : ∀ d ∈ digits, d.toLower ≠ 'x' := forall_of_isHex (by decide) hex
  have plain : ∀ d ∈ digits, d ≠ '_' := forall_of_isHex (by decide) hex
  have unsigned : ∀ d ∈ digits, d ≠ '-' ∧ d ≠ '+' := forall_of_isHex (by decide) hex
  have read := digitsOf?_eq_self nonempty plain
  have value := ofDigits?_eq_foldl hex 0
  unfold Numeral.hexadecimal? Numeral.integer?
  rw [toAscii?_ofChars ascii]
  simp only [Option.bind_eq_bind, Option.bind_some, trim_eq_self solid]
  cases digits with
  | nil => exact absurd rfl nonempty
  | cons d rest =>
    obtain ⟨notMinus, notPlus⟩ := unsigned d List.mem_cons_self
    split
    next minus => exact absurd (List.cons.inj minus).1 notMinus
    next plus => exact absurd (List.cons.inj plus).1 notPlus
    · simp [dropMark_eq_self unmarked, read, value, hexValue]

end ImportPolicy.Script
