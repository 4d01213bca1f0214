import ImportPolicy.Proofs.Json.Data
import ImportPolicy.Proofs.Traversals
import ImportPolicy.Proofs.Value.Calendar
import ImportPolicy.Schema.Reader
import Mathlib.Algebra.Group.Nat.Defs

/-! # Points in time that are read

Whatever a point in time is read from, its parts are in their ranges: written parts are checked one by
one, and a count of seconds is bounded before it is taken apart. What JSON can say is always in whole
minutes from universal time.

* `Moment.InMinutes`, `Moment.IsWritable` — points in time in whole minutes from universal time.
* `Instant.day_isReal`, `Instant.offset?_near`, `Instant.moment?_isWritable` — written days and times.
* `Instant.ofCount_isWritable`, `Instant.ofDouble_isWritable` — counts of seconds.
* `Schema.Reader.moment_isReal`, `Schema.Reader.moment_inMinutes` — all that is read. -/

namespace ImportPolicy

/-- The distance from universal time is in whole minutes if it is known. -/
def Moment.InMinutes (m : Moment) : Prop := ∀ o ∈ m.offset, o.natAbs % 60 = 0

instance (m : Moment) : Decidable m.InMinutes := by
  unfold Moment.InMinutes
  infer_instance

/-- A point in time that can be written as it is. -/
structure Moment.IsWritable (m : Moment) : Prop extends Moment.IsReal m where
  inMinutes : m.InMinutes

theorem toOption_eq_some {ε α : Type} {outcome : Except ε α} {a : α}
    (found : outcome.toOption = some a) : outcome = .ok a := by
  cases outcome with
  | error e => cases found
  | ok b => exact congrArg _ (Option.some.inj found)

namespace Instant

variable {cs rest : List Char} {n count bound : Nat} {m : Moment}

/-! ## Numbers -/

theorem digit?_lt {c : Char} {d : Nat} (digit : digit? c = some d) : d < 10 := by
  unfold digit? at digit
  split at digit <;> cases digit
  next range =>
    have : c.toNat ≤ 57 := range.2
    omega

theorem foldlM_digits_lt {start : Nat}
    (spelt : cs.foldlM (fun n c => (digit? c).map (n * 10 + ·)) start = some n) :
    n < (start + 1) * 10 ^ cs.length := by
  induction cs generalizing start with
  | nil =>
    cases spelt
    simp
  | cons c cs inductionHypothesis =>
    rw [List.foldlM_cons] at spelt
    obtain ⟨next, here, later⟩ := Option.bind_eq_some_iff.1 spelt
    obtain ⟨d, digit, rfl⟩ := Option.map_eq_some_iff.1 here
    have small := digit?_lt digit
    refine Nat.lt_of_lt_of_le (inductionHypothesis later) ?_
    rw [List.length_cons, Nat.pow_succ', ← Nat.mul_assoc]
    exact Nat.mul_le_mul_right _ (by omega)

theorem number?_lt (spelt : number? cs = some n) : n < 10 ^ cs.length := by
  simpa using foldlM_digits_lt spelt

theorem digits_lt {failure : String} (spelt : digits count failure cs = .ok (n, rest)) :
    n < 10 ^ count := by
  unfold digits at spelt
  split at spelt
  · cases spelt
  next long =>
    split at spelt
    next number =>
      cases spelt
      have small := number?_lt number
      rwa [List.length_take, Nat.min_eq_left (Nat.not_lt.1 long)] at small
    next => cases spelt

theorem pair?_lt (spelt : pair? bound cs = some (n, rest)) : n < bound := by
  rw [pair?] at spelt
  obtain ⟨⟨number, after⟩, -, spelt⟩ := Option.bind_eq_some_iff.1 spelt
  simp only at spelt
  split at spelt <;> cases spelt
  assumption

/-! ## Written days and times -/

theorem day_isReal {d : Date} (spelt : day cs = .ok (d, rest)) (started : d.year ≠ 0) :
    d.IsReal := by
  rw [day] at spelt
  split at spelt
  · cases spelt
  · obtain ⟨⟨year, cs⟩, yearSpelt, spelt⟩ := bind_eq_ok spelt
    obtain ⟨cs, -, spelt⟩ := bind_eq_ok spelt
    obtain ⟨⟨month, cs⟩, -, spelt⟩ := bind_eq_ok spelt
    obtain ⟨cs, -, spelt⟩ := bind_eq_ok spelt
    obtain ⟨⟨dayOfMonth, cs⟩, -, spelt⟩ := bind_eq_ok spelt
    dsimp only at spelt
    split at spelt
    · cases spelt
    next last listed =>
      split at spelt
      · cases spelt
      next within =>
        cases spelt
        have inMonth : 1 ≤ dayOfMonth ∧ dayOfMonth ≤ last := by omega
        exact ⟨⟨Nat.pos_of_ne_zero started, Nat.le_of_lt_succ (digits_lt yearSpelt)⟩, last, listed,
          inMonth⟩

theorem fraction?_lt {micro : Nat} (spelt : fraction? cs = some (micro, rest)) :
    micro < 1000000 := by
  rw [fraction?] at spelt
  split at spelt
  · cases spelt
  · obtain ⟨n, number, same⟩ := Option.map_eq_some_iff.1 spelt
    cases same
    exact Nat.lt_of_lt_of_le (number?_lt number)
      (Nat.pow_le_pow_right (by decide) (List.length_take_le _ _))

theorem seconds?_lt {second micro : Nat} (spelt : seconds? cs = some (second, micro, rest)) :
    second < 60 ∧ micro < 1000000 := by
  unfold seconds? at spelt
  split at spelt
  next cs =>
    obtain ⟨⟨n, cs⟩, pair, spelt⟩ := Option.bind_eq_some_iff.1 spelt
    dsimp only at spelt
    split at spelt
    case h_3 =>
      cases spelt
      exact ⟨pair?_lt pair, by decide⟩
    all_goals
      obtain ⟨⟨micro, cs⟩, fraction, spelt⟩ := Option.bind_eq_some_iff.1 spelt
      cases spelt
      exact ⟨pair?_lt pair, fraction?_lt fraction⟩
  · cases spelt
    decide

theorem offsetSeconds?_near {o : Int} (spelt : offsetSeconds? cs = some o) :
    o.natAbs < 86400 ∧ o.natAbs % 60 = 0 := by
  rw [offsetSeconds?] at spelt
  obtain ⟨⟨hours, cs⟩, -, spelt⟩ := Option.bind_eq_some_iff.1 spelt
  obtain ⟨⟨minutes, cs⟩, -, spelt⟩ := Option.bind_eq_some_iff.1 spelt
  dsimp only at spelt
  split at spelt
  next near =>
    cases spelt
    rw [Int.ofNat_eq_natCast, Int.natAbs_natCast]
    omega
  · cases spelt

theorem offset?_near {offset : Option Int} (spelt : offset? cs = some offset) :
    ∀ o ∈ offset, o.natAbs < 86400 ∧ o.natAbs % 60 = 0 := by
  rintro o rfl
  unfold offset? at spelt
  split at spelt
  case h_1 | h_7 => cases spelt
  case h_2 | h_3 =>
    cases spelt
    decide
  case h_4 =>
    obtain ⟨distance, seconds, same⟩ := Option.map_eq_some_iff.1 spelt
    cases same
    exact offsetSeconds?_near seconds
  all_goals
    obtain ⟨distance, seconds, same⟩ := Option.map_eq_some_iff.1 spelt
    cases same
    rw [Int.natAbs_neg]
    exact offsetSeconds?_near seconds

theorem moment?_isWritable (spelt : moment? cs = some m) (started : m.date.year ≠ 0) :
    m.IsWritable := by
  rw [moment?] at spelt
  obtain ⟨⟨date, cs⟩, daySpelt, spelt⟩ := Option.bind_eq_some_iff.1 spelt
  dsimp only at spelt
  split at spelt
  case h_5 => cases spelt
  -- The four characters that may stand between the day and the time make no difference.
  all_goals
    obtain ⟨⟨hour, cs⟩, hourSpelt, spelt⟩ := Option.bind_eq_some_iff.1 spelt
    dsimp only at spelt
    split at spelt
    · obtain ⟨⟨minute, cs⟩, minuteSpelt, spelt⟩ := Option.bind_eq_some_iff.1 spelt
      obtain ⟨⟨second, micro, cs⟩, secondsSpelt, spelt⟩ := Option.bind_eq_some_iff.1 spelt
      obtain ⟨offset, offsetSpelt, spelt⟩ := Option.bind_eq_some_iff.1 spelt
      cases spelt
      have near := offset?_near offsetSpelt
      exact ⟨⟨day_isReal (toOption_eq_some daySpelt) started, pair?_lt hourSpelt,
        pair?_lt minuteSpelt, (seconds?_lt secondsSpelt).1, (seconds?_lt secondsSpelt).2,
        fun o known => (near o known).1⟩, fun o known => (near o known).2⟩
    · cases spelt

theorem midnight_isReal {d : Date} (real : d.IsReal) : (Moment.midnight d).IsReal :=
  ⟨real, Nat.succ_pos _, Nat.succ_pos _, Nat.succ_pos _, Nat.succ_pos _, fun _ none => nomatch none⟩

/-! ## Counts of seconds -/

theorem ofSeconds_isWritable {seconds : Int} {micro : Nat} (least : -11676096000 ≤ seconds)
    (most : seconds ≤ 253402300799) (small : micro < 1000000) :
    (Moment.ofSeconds seconds micro).IsWritable := by
  have days : Int.fdiv seconds 86400 = seconds / 86400 :=
    Int.fdiv_eq_ediv_of_nonneg _ (by decide)
  have rest : (seconds - seconds / 86400 * 86400).toNat < 86400 := by omega
  rw [Moment.ofSeconds, days]
  refine ⟨⟨Date.isReal_ofDays (by omega) (by omega), ?_, Nat.mod_lt _ (by decide),
    Nat.mod_lt _ (by decide), small, ?_⟩, ?_⟩
  · change _ / 3600 < 24
    omega
  all_goals
    rintro _ ⟨⟩
    decide

theorem ofCount_isWritable {count : Int} {micro : Nat} (read : ofCount count micro = .ok m) :
    m.IsWritable := by
  unfold ofCount at read
  extract_lets inMillis whole total seconds at read
  split at read
  · cases read
  · split at read <;> cases read
    exact ofSeconds_isWritable (by omega) (by omega) (Nat.mod_lt _ (by decide))

theorem ofDouble_isWritable {x : Binary64} (read : ofDouble x = .ok m) : m.IsWritable := by
  unfold ofDouble at read
  split at read
  · cases read
  · exact ofCount_isWritable read
  · exact ofCount_isWritable read

theorem count?_isWritable (spelt : count? cs = some (.ok m)) : m.IsWritable := by
  unfold count? at spelt
  extract_lets negative unsigned whole at spelt
  split at spelt
  · cases spelt
  · split at spelt
    · split at spelt
      · exact ofCount_isWritable (Option.some.inj spelt)
      · cases spelt
    · obtain ⟨n, -, read⟩ := Option.map_eq_some_iff.1 spelt
      exact ofDouble_isWritable read
    · cases spelt

theorem ofText_isWritable (read : ofText cs = .ok m) (started : m.date.year ≠ 0) :
    m.IsWritable := by
  unfold ofText at read
  split at read
  next spelt =>
    cases read
    exact moment?_isWritable spelt started
  next =>
    split at read
    next spelt =>
      cases read
      exact count?_isWritable spelt
    next spelt _ =>
      cases read
      exact ⟨midnight_isReal (day_isReal spelt started), nofun⟩
    all_goals cases read

end Instant

namespace Schema.Reader

variable {v : Value} {m : Moment}

theorem of_ofCount {outcome : Except String Moment} (read : ofCount outcome = .ok m) :
    outcome = .ok m := by
  cases outcome with
  | ok found => exact congrArg _ (Checked.ok.inj read)
  | error reason => cases read

/-- A point in time that is neither given as one nor as a day is written or counted. -/
theorem moment_cases (read : moment v = .ok m) :
    (∃ given, v = .moment given ∧ m = given.toMoment) ∨
      (∃ d, v = .date d ∧ m = Moment.midnight d.toDate) ∨ m.IsWritable := by
  unfold moment at read
  split at read
  next given =>
    cases read
    exact .inl ⟨given, rfl, rfl⟩
  next d =>
    cases read
    exact .inr (.inl ⟨d, rfl, rfl⟩)
  next => exact .inr (.inr (Instant.ofCount_isWritable (of_ofCount read)))
  next => exact .inr (.inr (Instant.ofDouble_isWritable (of_ofCount read)))
  next =>
    split at read
    · split at read
      · split at read
        next spelt =>
          split at read
          · cases read
          next started =>
            cases read
            exact .inr (.inr (Instant.ofText_isWritable spelt started))
        · cases read
      · cases read
    · cases read

theorem moment_isReal (read : moment v = .ok m) : m.IsReal := by
  obtain ⟨given, -, rfl⟩ | ⟨d, -, rfl⟩ | writable := moment_cases read
  · exact given.isReal
  · exact Instant.midnight_isReal d.isReal
  · exact writable.toIsReal

theorem moment_inMinutes (json : v.isJson = true) (read : moment v = .ok m) : m.InMinutes := by
  obtain ⟨given, rfl, -⟩ | ⟨d, rfl, -⟩ | writable := moment_cases read
  · cases json
  · cases json
  · exact writable.inMinutes

end Schema.Reader

end ImportPolicy
