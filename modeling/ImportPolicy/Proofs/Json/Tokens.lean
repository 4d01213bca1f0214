import ImportPolicy.Json.Printer
import ImportPolicy.Json.Reader
import ImportPolicy.Proofs.Json.Data
import ImportPolicy.Proofs.Text.Numerals

/-! # Texts and integers in JSON

What is written of a text or an integer is read as the text or the integer, whatever comes after it.

* `Text.scalars` — the characters of a text.
* `Json.readString_writeString` — texts in quotes, with their escapes.
* `Json.Fits`, `Json.readAtom_numeral` — integers whose digits are no more than a limit allows. -/

namespace ImportPolicy

namespace Text

/-- The characters of a text, without its lone surrogates. -/
def scalars (t : Text) : List Char := t.filterMap CodePoint.char?

theorem scalars_append (s t : Text) : scalars (s ++ t) = scalars s ++ scalars t :=
  List.filterMap_append

theorem scalars_ofChars (cs : List Char) : scalars (ofChars cs) = cs := by
  rw [scalars, ofChars, List.filterMap_map]
  exact List.filterMap_some

end Text

namespace Json

open Text

/-! ## Texts -/

theorem joinSurrogates_ofChars (cs : List Char) : joinSurrogates (ofChars cs) = ofChars cs := by
  induction cs with
  | nil => rfl
  | cons c cs inductionHypothesis =>
    change CodePoint.scalar c :: joinSurrogates (ofChars cs) = _
    rw [inductionHypothesis]
    rfl

theorem readString_escape {letter c : Char} (other : letter ≠ 'u')
    (escape : escapedChar? letter = some c) (rest : List Char) :
    readString ('\\' :: letter :: rest) =
      (readString rest).map fun p => (.scalar c :: p.1, p.2) := by
  rw [readString]
  · rw [escape]
    cases readString rest <;> rfl
  · intro _ _ _ _ _ isUnicode
    exact absurd isUnicode other

/-- The escape of a control character is its number in four digits. -/
theorem readString_control {n : Nat} (control : n < 0x20) (rest : List Char) :
    readString ('\\' :: 'u' :: (hexDigits 4 n ++ rest)) =
      (readString rest).map fun p => (.scalar (Char.ofNat n) :: p.1, p.2) := by
  obtain ⟨a, b, c, d, digits, meant⟩ : ∃ a b c d, hexDigits 4 n = [a, b, c, d] ∧
      fourDigits? a b c d = some (.scalar (Char.ofNat n)) := by
    refine ⟨_, _, _, _, rfl, ?_⟩
    revert n
    decide
  rw [digits]
  change readString ('\\' :: 'u' :: a :: b :: c :: d :: rest) = _
  rw [readString, meant]
  cases readString rest <;> rfl

theorem readString_plain {c : Char} (quote : c ≠ '\x22') (backslash : c ≠ '\\')
    (control : ¬ c.toNat < 0x20) (rest : List Char) :
    readString (c :: rest) = (readString rest).map fun p => (.scalar c :: p.1, p.2) := by
  rw [readString, if_neg (not_or.2 ⟨control, backslash⟩)]
  · cases readString rest <;> rfl
  · exact quote
  · intro _ _ _ _ _ same
    exact absurd same backslash
  · intro _ _ same
    exact absurd same backslash

/-- What is written of a character inside quotes is read as the character. -/
theorem readString_writePoint (c : Char) (rest : List Char) :
    readString (scalars (writePoint (.scalar c)) ++ rest) =
      (readString rest).map fun p => (.scalar c :: p.1, p.2) := by
  have named {n : Nat} (number : (CodePoint.scalar c).toNat = n) : Char.ofNat n = c :=
    number ▸ Char.ofNat_toNat c
  rw [writePoint]
  split_ifs with quote backslash backspace tab lineFeed formFeed carriageReturn control
  · exact readString_escape (by decide) (CodePoint.scalar_inj.1 quote ▸ rfl) rest
  · exact readString_escape (by decide) (CodePoint.scalar_inj.1 backslash ▸ rfl) rest
  · exact readString_escape (by decide) (named backspace ▸ rfl) rest
  · exact readString_escape (by decide) (named tab ▸ rfl) rest
  · exact readString_escape (by decide) (named lineFeed ▸ rfl) rest
  · exact readString_escape (by decide) (named formFeed ▸ rfl) rest
  · exact readString_escape (by decide) (named carriageReturn ▸ rfl) rest
  · have written := readString_control control rest
    rw [named rfl] at written
    exact written
  · exact readString_plain (fun same => quote (congrArg _ same))
      (fun same => backslash (congrArg _ same)) control rest

theorem readString_writeString (cs rest : List Char) :
    readString (scalars ((ofChars cs).flatMap writePoint) ++ '\x22' :: rest) =
      some (ofChars cs, rest) := by
  induction cs with
  | nil => rfl
  | cons c cs inductionHypothesis =>
    change readString (scalars (writePoint (.scalar c) ++ (ofChars cs).flatMap writePoint) ++ _) = _
    rw [scalars_append, List.append_assoc, readString_writePoint, inductionHypothesis]
    rfl

/-! ## Integers -/

/-- A text that ends a number that it follows. -/
def EndsNumber (rest : List Char) : Prop :=
  ∀ c ∈ rest.head?, c.isDigit = false ∧ c ≠ '.' ∧ c ≠ 'e' ∧ c ≠ 'E'

theorem wholeDigits_toDigits (n : Nat) {rest : List Char} (ends : EndsNumber rest) :
    wholeDigits (Nat.toDigits 10 n ++ rest) = Nat.toDigits 10 n := by
  rcases n.eq_zero_or_pos with rfl | positive
  · rfl
  · have digits : (Nat.toDigits 10 n ++ rest).takeWhile Char.isDigit = Nat.toDigits 10 n := by
      rw [List.takeWhile_append_of_pos fun c => isDigit_of_mem_toDigits]
      cases rest with
      | nil => simp
      | cons c rest => simp [ends c rfl]
    rw [wholeDigits]
    · exact digits
    · intro more zero
      obtain ⟨c, cs, spelt, -⟩ := exists_toDigits_cons n
      rw [spelt] at zero
      obtain rfl := (List.cons.inj zero).1
      exact absurd (eq_zero_of_toDigits_eq_cons spelt) (Nat.ne_of_gt positive)

theorem digitsValue_toDigits (n : Nat) : digitsValue (Nat.toDigits 10 n) = n := by
  have value := @Nat.ofDigitChars_ten_toDigits n
  rw [Nat.ofDigitChars_eq_foldl] at value
  simpa [digitsValue, Nat.mul_comm] using value

/-- The digits of an integer are no more than a limit allows. -/
def Fits (limit : Option Nat) (i : Int) : Prop :=
  ∀ most ∈ limit, (Nat.toDigits 10 i.natAbs).length ≤ most

theorem readMagnitude_toDigits {limit : Option Nat} {n : Nat} (fits : Fits limit n)
    (negative : Bool) {rest : List Char} (ends : EndsNumber rest) :
    readMagnitude limit negative (Nat.toDigits 10 n ++ rest) =
      some (.int (if negative then -n else n), rest) := by
  have whole := wholeDigits_toDigits n ends
  have fraction : fractionDigits rest = [] := by
    cases rest with
    | nil => rfl
    | cons c rest =>
      rw [fractionDigits]
      intro _ point
      exact absurd (List.cons.inj point).1 (ends c rfl).2.1
  have allowed : (limit.any fun most => decide (most < (Nat.toDigits 10 n).length)) = false := by
    rw [← Bool.not_eq_true, Option.any_eq_true]
    rintro ⟨most, limited, exceeded⟩
    have fit := fits most limited
    rw [Int.natAbs_natCast] at fit
    exact absurd (of_decide_eq_true exceeded) (Nat.not_lt.2 fit)
  simp only [readMagnitude, whole, List.isEmpty_iff, Nat.toDigits_ne_nil, if_false, List.drop_left,
    fraction, if_true, allowed, digitsValue_toDigits]
  cases rest with
  | nil => rfl
  | cons c rest =>
    simp only [(ends c rfl).2.2, or_self, if_false]
    rfl

theorem readAtom_digit {c : Char} (digit : c.isDigit = true) (limit : Option Nat)
    (cs : List Char) : readAtom limit (c :: cs) = readMagnitude limit false (c :: cs) := by
  have other {d : Char} (noDigit : d.isDigit = false) (tail : List Char) : c :: cs ≠ d :: tail := by
    rintro ⟨⟩
    rw [noDigit] at digit
    cases digit
  rw [readAtom] <;> exact fun tail => other (by decide) _

/-- What is written of an integer is read as the integer. -/
theorem readAtom_numeral {limit : Option Nat} {i : Int} (fits : Fits limit i) {rest : List Char}
    (ends : EndsNumber rest) : readAtom limit (numeral i ++ rest) = some (.int i, rest) := by
  cases i with
  | ofNat n =>
    obtain ⟨c, cs, spelt, digit⟩ := exists_toDigits_cons n
    rw [numeral, spelt, List.cons_append, readAtom_digit digit, ← List.cons_append, ← spelt,
      readMagnitude_toDigits fits _ ends]
    rfl
  | negSucc n =>
    rw [numeral, List.cons_append, readAtom]
    · exact readMagnitude_toDigits (n := n + 1) fits true ends
    · intro more infinity
      obtain ⟨c, cs, spelt, digit⟩ := exists_toDigits_cons (n + 1)
      rw [spelt] at infinity
      obtain rfl := (List.cons.inj infinity).1
      cases digit

end Json

end ImportPolicy
