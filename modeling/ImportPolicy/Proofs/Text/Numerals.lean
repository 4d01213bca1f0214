import ImportPolicy.Text.Basic

/-! # Numerals

* `Text.eq_zero_of_toDigits_eq_cons` — only zero is spelt with a zero in front.
* `Text.numeral`, `Text.ofInt_eq_ofChars` — the characters that spell an integer.
* `Text.exists_numeral_cons` — how the spelling of an integer starts.
* `Text.ofInt_injective` — no two integers are spelt alike.
* `Text.colon_not_mem_ofInt` — no integer is spelt with a colon. -/

namespace ImportPolicy.Text

/-- The characters that spell an integer. -/
def numeral : Int → List Char
  | .ofNat n => Nat.toDigits 10 n
  | .negSucc n => '-' :: Nat.toDigits 10 (n + 1)

theorem ofInt_eq_ofChars (i : Int) : ofInt i = ofChars (numeral i) := by
  cases i <;> rfl

theorem isDigit_of_mem_toDigits {c : Char} {n : Nat} (digit : c ∈ Nat.toDigits 10 n) :
    c.isDigit = true :=
  Nat.isDigit_of_mem_toDigits (by decide) (by decide) digit

theorem toDigits_injective {m n : Nat} (same : Nat.toDigits 10 m = Nat.toDigits 10 n) : m = n := by
  rw [← @Nat.ofDigitChars_ten_toDigits m, same, Nat.ofDigitChars_ten_toDigits]

theorem exists_toDigits_cons (n : Nat) :
    ∃ c cs, Nat.toDigits 10 n = c :: cs ∧ c.isDigit = true := by
  cases spelt : Nat.toDigits 10 n with
  | nil => exact absurd spelt Nat.toDigits_ne_nil
  | cons c cs => exact ⟨c, cs, rfl, isDigit_of_mem_toDigits (spelt ▸ List.mem_cons_self)⟩

theorem eq_zero_of_toDigits_eq_cons {n : Nat} {cs : List Char}
    (zero : Nat.toDigits 10 n = '0' :: cs) : n = 0 := by
  -- The first digit is that of the number without its last digit, if there is more than one.
  induction n using Nat.strongRecOn generalizing cs with
  | ind n inductionHypothesis =>
    rw [Nat.toDigits_eq_if (by decide)] at zero
    split at zero
    next small =>
      have first : Nat.digitChar n = '0' := (List.cons.inj zero).1
      clear inductionHypothesis zero
      revert n
      decide
    next large =>
      obtain ⟨c, more, front, -⟩ := exists_toDigits_cons (n / 10)
      rw [front] at zero
      obtain rfl := (List.cons.inj zero).1
      have none := inductionHypothesis (n / 10) (by omega) front
      omega

theorem mem_numeral {c : Char} {i : Int} (member : c ∈ numeral i) : c = '-' ∨ c.isDigit = true := by
  cases i with
  | ofNat n => exact .inr (isDigit_of_mem_toDigits member)
  | negSucc n =>
    rcases List.mem_cons.1 member with sign | digit
    · exact .inl sign
    · exact .inr (isDigit_of_mem_toDigits digit)

/-- What a numeral starts with is a sign or a digit, and no other character. -/
theorem exists_numeral_cons (i : Int) : ∃ c cs, numeral i = c :: cs ∧
    ∀ other : Char, other ≠ '-' → other.isDigit = false → c ≠ other := by
  cases spelt : numeral i with
  | nil => cases i <;> simp [numeral] at spelt
  | cons c cs =>
    refine ⟨c, cs, rfl, ?_⟩
    rintro _ noSign noDigit rfl
    rcases mem_numeral (i := i) (spelt ▸ List.mem_cons_self) with sign | digit
    · exact noSign sign
    · rw [noDigit] at digit
      cases digit

theorem minus_cons_ne_toDigits (cs : List Char) (n : Nat) : '-' :: cs ≠ Nat.toDigits 10 n := by
  intro same
  have digit : '-'.isDigit = true := isDigit_of_mem_toDigits (same ▸ List.mem_cons_self)
  exact absurd digit (by decide)

theorem numeral_injective {i j : Int} (same : numeral i = numeral j) : i = j := by
  cases i with
  | ofNat m =>
    cases j with
    | ofNat n => rw [toDigits_injective same]
    | negSucc n => exact absurd same.symm (minus_cons_ne_toDigits _ m)
  | negSucc m =>
    cases j with
    | ofNat n => exact absurd same (minus_cons_ne_toDigits _ n)
    | negSucc n => rw [Nat.succ.inj (toDigits_injective (List.cons.inj same).2)]

theorem ofInt_injective {i j : Int} (same : ofInt i = ofInt j) : i = j := by
  rw [ofInt_eq_ofChars, ofInt_eq_ofChars] at same
  exact numeral_injective (ofChars_inj.1 same)

theorem colon_not_mem_ofInt (i : Int) : .scalar ':' ∉ ofInt i := by
  rw [ofInt_eq_ofChars]
  intro member
  obtain ⟨c, spelt, same⟩ := List.mem_map.1 member
  obtain rfl := CodePoint.scalar_inj.1 same
  rcases mem_numeral spelt with sign | digit
  · exact absurd sign (by decide)
  · exact absurd digit (by decide)

end ImportPolicy.Text
