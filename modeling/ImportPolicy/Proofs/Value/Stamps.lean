import ImportPolicy.Proofs.Text.Numerals
import ImportPolicy.Proofs.Value.Moments
import ImportPolicy.Snapshot.Value

/-! # Stamps

The stamp of a point in time is read as the point in time: every part is written with as many digits
as are read, and what stands behind a part can be told from it. Only the seconds of a distance from
universal time are not written, which is then read as the whole minutes in it.

* `Text.paddedChars`, `Instant.digits_paddedChars` — numbers in a fixed count of digits.
* `Instant.day_chars`, `Instant.seconds?_chars`, `Instant.offset?_chars` — the parts.
* `Moment.toMinutes` — what a stamp holds of a point in time.
* `Moment.clockChars`, `Moment.stamp_eq` — the characters of a stamp.
* `Moment.moment_stamp` — reading a stamp. -/

namespace ImportPolicy

namespace Text

/-- The characters of a number with at least so many digits. -/
def paddedChars (width n : Nat) : List Char :=
  List.replicate (width - (Nat.toDigits 10 n).length) '0' ++ Nat.toDigits 10 n

theorem padded_eq (width n : Nat) : padded width n = ofChars (paddedChars width n) := rfl

theorem ofChars_append (cs ds : List Char) : ofChars (cs ++ ds) = ofChars cs ++ ofChars ds :=
  List.map_append

theorem string_append (s : String) (t : Text) : HAppend.hAppend s t = ofString s ++ t := rfl

theorem chars?_ofChars (cs : List Char) : chars? (ofChars cs) = some cs := by
  induction cs with
  | nil => rfl
  | cons c cs inductionHypothesis =>
    change List.mapM CodePoint.char? (.scalar c :: ofChars cs) = _
    rw [List.mapM_cons]
    change (chars? (ofChars cs)).bind _ = _
    rw [inductionHypothesis]
    rfl

theorem isDigit_of_mem_paddedChars {c : Char} {width n : Nat} (member : c ∈ paddedChars width n) :
    c.isDigit = true := by
  rcases List.mem_append.1 member with zero | digit
  · rw [List.eq_of_mem_replicate zero]
    rfl
  · exact isDigit_of_mem_toDigits digit

theorem length_paddedChars {width n : Nat} (positive : 0 < width) (small : n < 10 ^ width) :
    (paddedChars width n).length = width := by
  have short := (Nat.length_toDigits_le_iff (b := 10) (by decide) positive).2 small
  rw [paddedChars, List.length_append, List.length_replicate, Nat.sub_add_cancel short]

end Text

open Text

namespace Instant

variable {cs rest : List Char} {n bound : Nat}

/-! ## Parts of a stamp -/

theorem digit?_of_isDigit {c : Char} (digit : c.isDigit = true) :
    digit? c = some (c.toNat - '0'.toNat) := by
  simp only [Char.isDigit, Bool.and_eq_true, decide_eq_true_eq] at digit
  exact if_pos digit

theorem digit?_eq_none {c : Char} (noDigit : c.isDigit = false) : digit? c = none := by
  refine if_neg fun range => ?_
  rw [← Bool.not_eq_true, Char.isDigit, Bool.and_eq_true, decide_eq_true_iff, decide_eq_true_iff]
    at noDigit
  exact noDigit range

theorem foldlM_digits (digits : ∀ c ∈ cs, c.isDigit = true) (start : Nat) :
    cs.foldlM (fun n c => (digit? c).map (n * 10 + ·)) start =
      some (Nat.ofDigitChars 10 cs start) := by
  induction cs generalizing start with
  | nil => rfl
  | cons c cs inductionHypothesis =>
    rw [List.forall_mem_cons] at digits
    rw [List.foldlM_cons, digit?_of_isDigit digits.1]
    change cs.foldlM _ (start * 10 + _) = _
    rw [inductionHypothesis digits.2, Nat.ofDigitChars_cons, Nat.mul_comm]

theorem number?_paddedChars (width n : Nat) : number? (paddedChars width n) = some n := by
  rw [number?, foldlM_digits fun c => isDigit_of_mem_paddedChars, paddedChars,
    Nat.ofDigitChars_append, Nat.ofDigitChars_replicate_zero, Nat.mul_zero,
    Nat.ofDigitChars_ten_toDigits]

theorem digits_paddedChars {width : Nat} (positive : 0 < width) (small : n < 10 ^ width)
    (failure : String) (rest : List Char) :
    digits width failure (paddedChars width n ++ rest) = .ok (n, rest) := by
  have length := length_paddedChars positive small
  have front : (paddedChars width n ++ rest).take width = paddedChars width n := by
    simp [length]
  have back : (paddedChars width n ++ rest).drop width = rest := by
    simp [length]
  rw [digits, if_neg (by simp [length]), front, back, number?_paddedChars]

theorem pair?_paddedChars (two : bound ≤ 100) (small : n < bound) (rest : List Char) :
    pair? bound (paddedChars 2 n ++ rest) = some (n, rest) := by
  rw [pair?, digits_paddedChars (by decide) (Nat.lt_of_lt_of_le small two)]
  exact if_pos small

theorem day_chars {d : Date} (real : d.IsReal) (rest : List Char) :
    day (paddedChars 4 d.year ++ '-' :: (paddedChars 2 d.month ++ '-' ::
      (paddedChars 2 d.day ++ rest))) = .ok (d, rest) := by
  obtain ⟨last, listed, first, within⟩ := real.day
  obtain ⟨months, days⟩ := Date.le_of_daysIn? listed
  have year : d.year < 10 ^ 4 := Nat.lt_succ_of_le real.year.2
  have month : d.month < 10 ^ 2 := by omega
  have dayOfMonth : d.day < 10 ^ 2 := by omega
  have long : ¬ (paddedChars 4 d.year ++ '-' :: (paddedChars 2 d.month ++ '-' ::
      (paddedChars 2 d.day ++ rest))).length < 10 := by
    simp only [List.length_append, List.length_cons, length_paddedChars (by decide) year,
      length_paddedChars (by decide) month, length_paddedChars (by decide) dayOfMonth]
    omega
  rw [day, if_neg long]
  simp only [digits_paddedChars (by decide) year, digits_paddedChars (by decide) month,
    digits_paddedChars (by decide) dayOfMonth, dash, Option.mem_def.1 listed, Except.bind, bind,
    pure, Except.pure]
  rw [if_neg (by omega)]

/-- The characters of a fraction of a second, if there is one. -/
def fractionChars (micro : Nat) : List Char :=
  if micro = 0 then [] else '.' :: paddedChars 6 micro

theorem fraction?_paddedChars {micro : Nat} (small : micro < 1000000)
    (ends : ∀ c ∈ rest.head?, c.isDigit = false) :
    fraction? (paddedChars 6 micro ++ rest) = some (micro, rest) := by
  have length : (paddedChars 6 micro).length = 6 := length_paddedChars (by decide) small
  have digits : ((paddedChars 6 micro ++ rest).takeWhile fun c => (digit? c).isSome) =
      paddedChars 6 micro := by
    rw [List.takeWhile_append_of_pos]
    · cases rest with
      | nil => simp
      | cons c rest => simp [digit?_eq_none (ends c rfl)]
    · intro c member
      rw [digit?_of_isDigit (isDigit_of_mem_paddedChars member)]
      rfl
  have six : (paddedChars 6 micro ++ List.replicate 6 '0').take 6 = paddedChars 6 micro := by
    simp [length]
  have written : ¬ (paddedChars 6 micro).isEmpty = true := by
    rw [List.isEmpty_iff_length_eq_zero, length]
    decide
  simp only [fraction?, digits, if_neg written, six, number?_paddedChars, Option.map_some,
    List.drop_left]

/-- Whatever ends the seconds is no digit, and no sign of a fraction. -/
theorem seconds?_chars {second micro : Nat} (small : second < 60) (small' : micro < 1000000)
    (ends : ∀ c ∈ rest.head?, c.isDigit = false ∧ c ≠ '.' ∧ c ≠ ',') :
    seconds? (':' :: (paddedChars 2 second ++ (fractionChars micro ++ rest))) =
      some (second, micro, rest) := by
  rw [seconds?, pair?_paddedChars (by decide) small]
  simp only [Option.bind_eq_bind, Option.bind_some]
  by_cases whole : micro = 0
  · rw [fractionChars, if_pos whole, whole, List.nil_append]
    split
    next point => exact absurd rfl (ends _ rfl).2.1
    next comma => exact absurd rfl (ends _ rfl).2.2
    next => rfl
  · rw [fractionChars, if_neg whole, List.cons_append]
    simp only [fraction?_paddedChars small' fun c first => (ends c first).1, Option.bind_some]

/-- The whole minutes of a distance from universal time, in seconds. -/
def wholeMinutes (seconds : Int) : Int := Int.tdiv seconds 60 * 60

theorem wholeMinutes_eq (seconds : Int) : wholeMinutes seconds =
    if seconds < 0 then -((seconds.natAbs / 60 * 60 : Nat) : Int)
    else (seconds.natAbs / 60 * 60 : Nat) := by
  obtain ⟨n, rfl | rfl⟩ := Int.eq_nat_or_neg seconds
  · rw [wholeMinutes, if_neg (by omega), Int.natAbs_natCast]
    rfl
  · rw [wholeMinutes, Int.neg_tdiv, Int.natAbs_neg, Int.natAbs_natCast]
    change -((n / 60 : Nat) : Int) * 60 = _
    split <;> omega

theorem wholeMinutes_eq_self_iff {seconds : Int} :
    wholeMinutes seconds = seconds ↔ seconds.natAbs % 60 = 0 := by
  rw [wholeMinutes_eq]
  split <;> omega

/-- The characters of a distance from universal time without its seconds, if it is known. -/
def offsetChars : Option Int → List Char
  | none => []
  | some o =>
    if o = 0 then ['Z']
    else (if o < 0 then '-' else '+') ::
      (paddedChars 2 (o.natAbs / 3600) ++ ':' :: paddedChars 2 (o.natAbs / 60 % 60))

theorem offsetChars_ends (offset : Option Int) :
    ∀ c ∈ (offsetChars offset).head?, c.isDigit = false ∧ c ≠ '.' ∧ c ≠ ',' := by
  cases offset with
  | none => exact fun _ none => nomatch none
  | some o =>
    rw [offsetChars]
    split
    · rintro _ ⟨⟩
      decide
    · split <;> rintro _ ⟨⟩ <;> decide

theorem offset?_chars {offset : Option Int} (near : ∀ o ∈ offset, o.natAbs < 86400) :
    offset? (offsetChars offset) = some (offset.map wholeMinutes) := by
  cases offset with
  | none => rfl
  | some o =>
    have near := near o rfl
    have seconds : offsetSeconds? (paddedChars 2 (o.natAbs / 3600) ++
        ':' :: paddedChars 2 (o.natAbs / 60 % 60)) = some ((o.natAbs / 60 * 60 : Nat) : Int) := by
      have total : o.natAbs / 3600 * 3600 + o.natAbs / 60 % 60 * 60 = o.natAbs / 60 * 60 := by
        omega
      rw [offsetSeconds?, pair?_paddedChars (by decide) (by omega),
        ← List.append_nil (paddedChars 2 (o.natAbs / 60 % 60))]
      simp only [Option.bind_eq_bind, Option.bind_some]
      rw [pair?_paddedChars (by decide) (by omega), Option.bind_some, total,
        if_pos ⟨rfl, by omega⟩]
      rfl
    rw [offsetChars, Option.map_some, wholeMinutes_eq]
    by_cases universal : o = 0
    · rw [universal]
      rfl
    · rw [if_neg universal]
      by_cases negative : o < 0
      · rw [if_pos negative, if_pos negative, offset?, seconds, Option.map_some]
      · rw [if_neg negative, if_neg negative, offset?, seconds, Option.map_some]

end Instant

/-! ## Stamps -/

namespace Moment

open Instant

variable {m : Moment}

/-- The point in time without the seconds of its distance from universal time. -/
def toMinutes (m : Moment) : Moment := { m with offset := m.offset.map wholeMinutes }

theorem toMinutes_eq_self_iff : m.toMinutes = m ↔ m.InMinutes := by
  unfold InMinutes
  rcases m with ⟨date, hour, minute, second, microsecond, _ | o⟩ <;>
    simp [toMinutes, wholeMinutes_eq_self_iff]

/-- The characters of a day and a time, in front of those of the distance from universal time. -/
def clockChars (m : Moment) (distance : List Char) : List Char :=
  paddedChars 4 m.date.year ++ '-' :: (paddedChars 2 m.date.month ++ '-' ::
    (paddedChars 2 m.date.day ++ 'T' :: (paddedChars 2 m.hour ++ ':' :: (paddedChars 2 m.minute ++
      ':' :: (paddedChars 2 m.second ++ (fractionChars m.microsecond ++ distance))))))

theorem moment?_clockChars (real : m.IsReal) :
    moment? (m.clockChars (offsetChars m.offset)) = some m.toMinutes := by
  have seconds := seconds?_chars real.second real.microsecond (offsetChars_ends m.offset)
  rw [clockChars, moment?, day_chars real.date]
  simp only [Except.toOption, Option.bind_eq_bind, Option.bind_some,
    pair?_paddedChars (by decide) real.hour, pair?_paddedChars (by decide) real.minute, seconds,
    offset?_chars real.offset]
  rfl

theorem spell_eq (m : Moment) :
    spell { m with offset := none } "T" = ofChars (m.clockChars []) := by
  have fraction : (if m.microsecond = 0 then [] else
      ofString "." ++ ofChars (paddedChars 6 m.microsecond)) =
        ofChars (fractionChars m.microsecond) := by
    rw [fractionChars]
    split <;> rfl
  have dash : ofString "-" = ofChars ['-'] := rfl
  have colon : ofString ":" = ofChars [':'] := rfl
  have between : ofString "T" = ofChars ['T'] := rfl
  simp only [spell, Date.spell, Option.elim, string_append, padded_eq, fraction, dash, colon,
    between, ← ofChars_append, clockChars, List.append_assoc, List.cons_append, List.nil_append,
    List.append_nil]

theorem stampOffset_eq (seconds : Int) :
    stampOffset seconds = ofChars (offsetChars (some seconds)) := by
  have colon : ofString ":" = ofChars [':'] := rfl
  have sign : ofString (if seconds < 0 then "-" else "+") =
      ofChars [if seconds < 0 then '-' else '+'] := by
    split <;> rfl
  have hours : seconds.natAbs / 60 / 60 = seconds.natAbs / 3600 := Nat.div_div_eq_div_mul _ _ _
  rw [stampOffset, offsetChars]
  split
  · rfl
  · simp only [padded_eq, colon, sign, hours, ← ofChars_append, List.append_assoc,
      List.cons_append, List.nil_append]

theorem stamp_eq (m : Moment) : m.stamp = ofChars (m.clockChars (offsetChars m.offset)) := by
  have distance : m.offset.elim [] stampOffset = ofChars (offsetChars m.offset) := by
    cases m.offset with
    | none => rfl
    | some o => exact stampOffset_eq o
  rw [stamp, spell_eq, distance, ← ofChars_append]
  simp only [clockChars, List.append_assoc, List.cons_append, List.append_nil]

theorem isScalar_stamp (m : Moment) : m.stamp.isScalar = true := by
  rw [stamp_eq, Text.isScalar_ofChars]

theorem toNat_lt_of_mem_clockChars (m : Moment) :
    ∀ c ∈ m.clockChars (offsetChars m.offset), c.toNat < 0x80 := by
  have padded (width n : Nat) : ∀ c ∈ paddedChars width n, c.toNat < 0x80 := by
    intro c member
    have range : 48 ≤ c.toNat ∧ c.toNat ≤ 57 := by
      simpa [Char.isDigit, UInt32.le_iff_toNat_le] using isDigit_of_mem_paddedChars member
    omega
  have fraction : ∀ c ∈ fractionChars m.microsecond, c.toNat < 0x80 := by
    rw [fractionChars]
    split
    · exact fun _ none => nomatch none
    · exact List.forall_mem_cons.2 ⟨by decide, padded 6 _⟩
  have offset : ∀ c ∈ offsetChars m.offset, c.toNat < 0x80 := by
    cases m.offset with
    | none => exact fun _ none => nomatch none
    | some o =>
      rw [offsetChars]
      split
      · exact List.forall_mem_singleton.2 (by decide)
      · have sign : (if o < 0 then '-' else '+').toNat < 0x80 := by split <;> decide
        have colon : ':'.toNat < 0x80 := by decide
        rw [List.forall_mem_cons, List.forall_mem_append, List.forall_mem_cons]
        exact ⟨sign, padded 2 _, colon, padded 2 _⟩
  simp only [clockChars, List.forall_mem_append, List.forall_mem_cons]
  exact ⟨padded 4 _, by decide, padded 2 _, by decide, padded 2 _, by decide, padded 2 _, by decide,
    padded 2 _, by decide, padded 2 _, fraction, offset⟩

/-- The bytes of characters below 128 are their numbers. -/
theorem map_encode {cs : List Char} (ascii : ∀ c ∈ cs, c.toNat < 0x80) :
    (Utf8.encode cs).map (fun b => Char.ofNat b.toNat) = cs := by
  induction cs with
  | nil => rfl
  | cons c cs inductionHypothesis =>
    rw [List.forall_mem_cons] at ascii
    have single : Utf8.encodeChar c = [UInt8.ofNat c.toNat] := if_pos ascii.1
    have number : (UInt8.ofNat c.toNat).toNat = c.toNat := by
      rw [UInt8.toNat_ofNat']
      omega
    change (Utf8.encodeChar c ++ Utf8.encode cs).map _ = _
    rw [single, List.map_append, inductionHypothesis ascii.2]
    simp [number]

/-- A point in time is read from its stamp, but for the seconds of its distance from universal
    time. -/
theorem moment_stamp (real : m.IsReal) : Schema.Reader.moment (.str m.stamp) = .ok m.toMinutes := by
  have bytes : bytes? m.stamp = some (Utf8.encode (m.clockChars (offsetChars m.offset))) := by
    rw [bytes?, stamp_eq, chars?_ofChars]
    rfl
  have started : ¬ m.toMinutes.date.year = 0 := Nat.ne_of_gt real.date.year.1
  simp only [Schema.Reader.moment, Schema.Reader.lenientText?, bytes,
    map_encode m.toNat_lt_of_mem_clockChars, Instant.ofText, moment?_clockChars real,
    if_neg started]

end Moment

end ImportPolicy
