import ImportPolicy.Proofs.Script.Escapes
import ImportPolicy.Script.Grammar
import Mathlib.Data.List.Basic
import Mathlib.Data.List.Chain

/-! # Spelled literals

A text is spelled as a literal piece by piece: characters as they are, escapes, and line ends that
a backslash takes away.

* `Piece`, `Spelling` — the pieces of a spelling, what they are written as and what they stand for.
* `Scans` — reading the rest of a literal gives a text.
* `Piece.Swallows` — a backslash with a lone carriage return takes a line break after it, too.
* `scanString_spelling` — what a spelled literal is read as. -/

namespace ImportPolicy.Script

/-! ## Spellings -/

/-- The ways to end a line. -/
inductive LineTerminator where
  | lineFeed
  | carriageReturn
  | carriageReturnLineFeed
  | lineSeparator
  | paragraphSeparator

/-- The characters of a line end. -/
def LineTerminator.text : LineTerminator → List Char
  | .lineFeed => ['\n']
  | .carriageReturn => ['\r']
  | .carriageReturnLineFeed => ['\r', '\n']
  | .lineSeparator => ['\u2028']
  | .paragraphSeparator => ['\u2029']

/-- The characters that have a meaning of their own after a backslash, and their meanings. -/
def singleEscapes : List (Char × Char) :=
  [('b', '\x08'), ('f', '\x0c'), ('n', '\n'), ('r', '\r'), ('t', '\t'), ('v', '\x0b'),
    ('0', '\x00')]

/-- A character stands for itself between some quotes. -/
structure IsPlain (quote c : Char) : Prop where
  notBackslash : c ≠ '\\'
  notQuote : c ≠ quote
  notReturn : c ≠ '\r'
  notFeed : c ≠ '\n'

/-- A character stands for itself after a backslash. -/
structure IsIdentity (c : Char) : Prop where
  notSingle : c ∉ singleEscapes.map Prod.fst
  notNumber : c ≠ 'x' ∧ c ≠ 'u'
  notDigit : c.isDigit = false
  notLineEnd : Escape.isLineEnd c = false

/-- A piece of a spelling between some quotes. -/
inductive Piece (quote : Char) where
  | plain (c : Char) (isPlain : IsPlain quote c)
  | single (letter c : Char) (known : (letter, c) ∈ singleEscapes)
  | identity (c : Char) (isIdentity : IsIdentity c)
  | number (form : NumberForm) (digits : List Char) (c : Char) (admits : form.Admits digits)
      (denotes : hexValue digits = c.toNat)
  | continuation (t : LineTerminator)

variable {quote : Char}

/-- What a piece is written as. -/
def Piece.text : Piece quote → List Char
  | .plain c _ => [c]
  | .single letter _ _ => ['\\', letter]
  | .identity c _ => ['\\', c]
  | .number form digits _ _ _ => '\\' :: form.body digits
  | .continuation t => '\\' :: t.text

/-- What a piece stands for. -/
def Piece.value : Piece quote → List Char
  | .plain c _ => [c]
  | .single _ c _ => [c]
  | .identity c _ => [c]
  | .number _ _ c _ _ => [c]
  | .continuation _ => []

/-- A spelling of a text between some quotes. The escape `\0` does not stand before a digit. -/
structure Spelling (quote : Char) where
  pieces : List (Piece quote)
  zeros : pieces.IsChain fun p q =>
    p.text = ['\\', '0'] → ∀ d ∈ q.text.head?, d.isDigit = false

/-- What a spelling is written as. -/
def Spelling.text (spelling : Spelling quote) : List Char := spelling.pieces.flatMap Piece.text

/-- The text that is spelled. -/
def Spelling.value (spelling : Spelling quote) : List Char := spelling.pieces.flatMap Piece.value

/-! ## Reading a literal -/

/-- What stands before the closing quote has a text, and the quote is found. Characters of a
    fragment may have been read before. -/
def Scans (quote : Char) (input rest value : List Char) : Prop :=
  ∀ seen, ∃ parts, scanParts quote 0 seen input = some (parts, rest) ∧
    partsValue parts = .ok (Text.ofChars (seen.reverse ++ value))

theorem partsValue_flushFragment_append {seen value : List Char} {parts : List StringPart}
    (denotes : partsValue parts = .ok (Text.ofChars value)) :
    partsValue (flushFragment seen ++ parts) = .ok (Text.ofChars (seen.reverse ++ value)) := by
  unfold flushFragment
  split
  next empty => rw [List.isEmpty_iff.1 empty]; exact denotes
  next =>
    rw [List.singleton_append, partsValue, denotes]
    simp [bind, Except.bind, pure, Except.pure, Text.ofChars]

theorem Scans.close (rest : List Char) : Scans quote (quote :: rest) rest [] := by
  intro seen
  refine ⟨flushFragment seen ++ [], by simp [scanParts], ?_⟩
  exact partsValue_flushFragment_append rfl

theorem Scans.plain {c : Char} {more rest value : List Char} (isPlain : IsPlain quote c)
    (scans : Scans quote more rest value) : Scans quote (c :: more) rest (c :: value) := by
  intro seen
  obtain ⟨parts, scanned, denotes⟩ := scans (c :: seen)
  rw [List.reverse_cons, List.append_assoc] at denotes
  refine ⟨parts, ?_, denotes⟩
  rw [scanParts, if_neg isPlain.notQuote, if_neg isPlain.notBackslash,
    if_neg (not_or.2 ⟨isPlain.notFeed, isPlain.notReturn⟩)]
  exact scanned

/-- The characters of an escape that are still to come are taken into it. -/
theorem scanParts_pending {body : List Char} (nonempty : body ≠ []) (seen more : List Char) :
    scanParts quote body.length seen (body ++ more) =
      (scanParts quote 0 [] more).map fun found =>
        (.escape (seen.reverse ++ body) :: found.1, found.2) := by
  induction body generalizing seen with
  | nil => exact absurd rfl nonempty
  | cons c body ih =>
    cases body with
    | nil => simp [scanParts]
    | cons d body =>
      have step := ih (List.cons_ne_nil d body) (c :: seen)
      rw [List.reverse_cons, List.append_assoc] at step
      exact step

theorem Scans.escape {body text more rest value : List Char} (isQuote : quote ≠ '\\')
    (nonempty : body ≠ []) (length : escapeBodyLength (body ++ more) = body.length)
    (decodes : Escape.decode (Text.ofChars ('\\' :: body)) = .ok (Text.ofChars text))
    (scans : Scans quote more rest value) :
    Scans quote ('\\' :: (body ++ more)) rest (text ++ value) := by
  intro seen
  obtain ⟨parts, scanned, denotes⟩ := scans []
  refine ⟨flushFragment seen ++ .escape ('\\' :: body) :: parts, ?_, ?_⟩
  · rw [scanParts, if_neg (Ne.symm isQuote), if_pos rfl, length,
      scanParts_pending nonempty, scanned]
    rfl
  · apply partsValue_flushFragment_append
    rw [partsValue, decodes, denotes]
    simp [bind, Except.bind, pure, Except.pure, Text.ofChars]

/-! ## Where an escape ends -/

theorem isDigit_of_isOctal {c : Char} (octal : isOctal c = true) : c.isDigit = true := by
  simp only [isOctal, Bool.and_eq_true, decide_eq_true_eq, Char.le_def,
    UInt32.le_iff_toNat_le] at octal
  have lower : 48 ≤ c.val.toNat := octal.1
  have upper : c.val.toNat ≤ 55 := octal.2
  simp only [Char.isDigit, Bool.and_eq_true, decide_eq_true_eq, ge_iff_le, UInt32.le_iff_toNat_le]
  exact ⟨lower, Nat.le_trans upper (by decide)⟩

theorem escapeBodyLength_single {c : Char} (notNumber : c ≠ 'x' ∧ c ≠ 'u') (notReturn : c ≠ '\r')
    (notOctal : isOctal c = false) (more : List Char) : escapeBodyLength (c :: more) = 1 := by
  unfold escapeBodyLength
  split
  next starts => exact absurd (List.cons.inj starts).1 notNumber.1
  next starts => exact absurd (List.cons.inj starts).1 notNumber.2
  next starts => exact absurd (List.cons.inj starts).1 notReturn
  next starts =>
    obtain ⟨rfl, rfl⟩ := List.cons.inj starts
    rw [notOctal]
    rfl
  next starts => exact absurd starts (List.cons_ne_nil c more)

theorem escapeBodyLength_zero {more : List Char} (noDigit : ∀ d ∈ more.head?, d.isDigit = false) :
    escapeBodyLength ('0' :: more) = 1 := by
  have stops : (more.take 2).takeWhile isOctal = [] := by
    cases more with
    | nil => rfl
    | cons d rest =>
      have notOctal : isOctal d = false := by
        cases octal : isOctal d with
        | false => rfl
        | true => exact absurd (isDigit_of_isOctal octal) (by simp [noDigit d rfl])
      simp [notOctal]
  rw [escapeBodyLength, stops]
  · rfl
  all_goals simp

theorem escapeBodyLength_return {more : List Char} (noBreak : ∀ c ∈ more.head?, isBreak c = false) :
    escapeBodyLength ('\r' :: more) = 1 := by
  cases more with
  | nil => rfl
  | cons c rest => rw [escapeBodyLength, noBreak c rfl]; rfl

theorem escapeBodyLength_return_break {c : Char} (breaks : isBreak c = true) (more : List Char) :
    escapeBodyLength ('\r' :: c :: more) = 2 := by
  rw [escapeBodyLength, breaks]
  rfl

/-- A line end is an escape of its own, unless a lone carriage return has a line break after it. -/
theorem escapeBodyLength_lineTerminator (t : LineTerminator) {more : List Char}
    (lone : t = .carriageReturn → ∀ c ∈ more.head?, isBreak c = false) :
    escapeBodyLength (t.text ++ more) = t.text.length := by
  cases t with
  | carriageReturn => exact escapeBodyLength_return (lone rfl)
  | carriageReturnLineFeed => exact escapeBodyLength_return_break (by decide) more
  | lineFeed => exact escapeBodyLength_single (by decide) (by decide) (by decide) more
  | lineSeparator => exact escapeBodyLength_single (by decide) (by decide) (by decide) more
  | paragraphSeparator => exact escapeBodyLength_single (by decide) (by decide) (by decide) more

theorem nameEscapeLength_unit {a b c d : Char} (notOpen : a ≠ '\x7b')
    (hex : isHex a = true ∧ isHex b = true ∧ isHex c = true ∧ isHex d = true) (more : List Char) :
    nameEscapeLength ('u' :: a :: b :: c :: d :: more) = 5 := by
  obtain ⟨ha, hb, hc, hd⟩ := hex
  unfold nameEscapeLength
  split
  next opened => exact absurd (List.cons.inj (List.cons.inj opened).2).1 notOpen
  next four =>
    cases four
    simp [ha, hb, hc, hd]
  next unmatched => exact absurd rfl (unmatched a b c d more)

theorem nameEscapeLength_braces {digits : List Char} (nonempty : 0 < digits.length)
    (hex : ∀ d ∈ digits, isHex d = true) (more : List Char) :
    nameEscapeLength ('u' :: '\x7b' :: (digits ++ '\x7d' :: more)) = digits.length + 3 := by
  have taken : (digits ++ '\x7d' :: more).takeWhile isHex = digits := by
    rw [List.takeWhile_append_of_pos hex, List.takeWhile_cons_of_neg (by decide), List.append_nil]
  unfold nameEscapeLength
  simp only [taken, List.drop_left]
  cases digits with
  | nil => cases nonempty
  | cons d rest => rfl

theorem escapeBodyLength_number {form : NumberForm} {digits : List Char}
    (admits : form.Admits digits) (more : List Char) :
    escapeBodyLength (form.body digits ++ more) = (form.body digits).length := by
  obtain ⟨hex, count⟩ := admits
  cases form with
  | byte =>
    obtain ⟨a, b, rfl⟩ := List.length_eq_two.1 (of_decide_eq_true count)
    have both : isHex a = true ∧ isHex b = true := ⟨hex a (by simp), hex b (by simp)⟩
    simp [NumberForm.body, escapeBodyLength, both]
  | unit =>
    obtain ⟨a, b, c, d, rfl⟩ := List.length_eq_four.1 (of_decide_eq_true count)
    have notOpen : ∀ e ∈ [a, b, c, d], e ≠ '\x7b' := forall_of_isHex (by decide) hex
    have length := nameEscapeLength_unit (notOpen a (by simp))
      ⟨hex a (by simp), hex b (by simp), hex c (by simp), hex d (by simp)⟩ more
    simp [NumberForm.body, escapeBodyLength, length]
  | braces =>
    have length := nameEscapeLength_braces (of_decide_eq_true count) hex more
    simp only [NumberForm.body, List.cons_append, List.append_assoc, List.nil_append,
      escapeBodyLength, length]
    simp

/-! ## What escapes stand for -/

theorem decode_single {letter c : Char} (known : (letter, c) ∈ singleEscapes) :
    Escape.decode (Text.ofChars ['\\', letter]) = .ok (Text.ofChars [c]) := by
  have all : ∀ entry ∈ singleEscapes,
      Escape.decode (Text.ofChars ['\\', entry.1]) = .ok (Text.ofChars [entry.2]) := by decide
  exact all _ known

theorem letter?_of_isIdentity {c : Char} (isIdentity : IsIdentity c) : Escape.letter? c = none := by
  have notSingle := isIdentity.notSingle
  unfold Escape.letter?
  split
  case h_8 => rfl
  all_goals exact absurd (by decide) notSingle

theorem decode_identity {c : Char} (isIdentity : IsIdentity c) :
    Escape.decode (Text.ofChars ['\\', c]) = .ok (Text.ofChars [c]) := by
  obtain ⟨notByte, notUnit⟩ := isIdentity.notNumber
  have isOne :
      Escape.decode (Text.ofChars ['\\', c]) = .ok [.scalar ((Escape.letter? c).getD c)] := by
    simp [Escape.decode, Escape.decodeBody, Text.ofChars, isIdentity.notLineEnd, notByte, notUnit]
  rw [isOne, letter?_of_isIdentity isIdentity]
  rfl

theorem ofNat?_toNat (c : Char) : CodePoint.ofNat? c.toNat = some (.scalar c) := by
  have valid : c.toNat.isValidChar := c.valid
  rw [CodePoint.ofNat?, dif_pos valid]
  rfl

theorem decode_scalar {form : NumberForm} {digits : List Char} {c : Char}
    (admits : form.Admits digits) (denotes : hexValue digits = c.toNat) :
    Escape.decode (Text.ofChars ('\\' :: form.body digits)) = .ok (Text.ofChars [c]) := by
  have small : ¬ 2 ^ 31 ≤ c.toNat := by
    have valid : c.toNat.isValidChar := c.valid
    rcases valid with below | ⟨-, below⟩ <;> omega
  rw [Escape.decode_number admits, denotes, if_neg small, ofNat?_toNat]
  rfl

theorem decode_lineEnd {c : Char} (isLineEnd : Escape.isLineEnd c = true) (rest : List Char) :
    Escape.decode (Text.ofChars ('\\' :: c :: rest)) = .ok (Text.ofChars []) := by
  simp [Escape.decode, Escape.decodeBody, Text.ofChars, isLineEnd]

theorem decode_lineTerminator (t : LineTerminator) :
    Escape.decode (Text.ofChars ('\\' :: t.text)) = .ok (Text.ofChars []) := by
  cases t <;> exact decode_lineEnd (by decide) _

/-! ## Pieces one after another -/

/-- A line break right after a continuation by a lone carriage return is taken for a part of the
    continuation. -/
def Piece.Swallows : Piece quote → Piece quote → Bool
  | .continuation .carriageReturn, .plain c _ => isBreak c
  | _, _ => false

/-- The text that some pieces are read as. -/
def readAs : List (Piece quote) → List Char
  | [] => []
  | [p] => p.value
  | p :: q :: rest => if p.Swallows q then readAs rest else p.value ++ readAs (q :: rest)

theorem Piece.text_ne_nil (p : Piece quote) : p.text ≠ [] := by
  cases p <;> exact List.cons_ne_nil _ _

/-- A piece is read as what it stands for if nothing after it is taken into it. -/
theorem Scans.piece (isQuote : quote ≠ '\\') (p : Piece quote) {more rest value : List Char}
    (zero : p.text = ['\\', '0'] → ∀ d ∈ more.head?, d.isDigit = false)
    (lone : p = .continuation .carriageReturn → ∀ c ∈ more.head?, isBreak c = false)
    (scans : Scans quote more rest value) :
    Scans quote (p.text ++ more) rest (p.value ++ value) := by
  cases p with
  | plain c isPlain => exact scans.plain isPlain
  | single letter c known =>
    refine scans.escape isQuote (List.cons_ne_nil letter []) ?_ (decode_single known)
    -- Only after a zero could the scan go on, through octal digits.
    by_cases isZero : letter = '0'
    · subst isZero
      exact escapeBodyLength_zero (zero rfl)
    · have others : ∀ entry ∈ singleEscapes, entry.1 ≠ '0' →
          (entry.1 ≠ 'x' ∧ entry.1 ≠ 'u') ∧ entry.1 ≠ '\r' ∧ isOctal entry.1 = false := by decide
      obtain ⟨notNumber, notReturn, notOctal⟩ := others _ known isZero
      exact escapeBodyLength_single notNumber notReturn notOctal more
  | identity c isIdentity =>
    refine scans.escape isQuote (List.cons_ne_nil c []) ?_ (decode_identity isIdentity)
    have notReturn : c ≠ '\r' := by
      rintro rfl
      cases isIdentity.notLineEnd
    have notOctal : isOctal c = false := by
      cases octal : isOctal c with
      | false => rfl
      | true => exact absurd (isDigit_of_isOctal octal) (by simp [isIdentity.notDigit])
    exact escapeBodyLength_single isIdentity.notNumber notReturn notOctal more
  | number form digits c admits denotes =>
    have nonempty : form.body digits ≠ [] := by cases form <;> exact List.cons_ne_nil _ _
    exact scans.escape isQuote nonempty (escapeBodyLength_number admits more)
      (decode_scalar admits denotes)
  | continuation t =>
    have nonempty : t.text ≠ [] := by cases t <;> exact List.cons_ne_nil _ _
    have length : escapeBodyLength (t.text ++ more) = t.text.length := by
      apply escapeBodyLength_lineTerminator
      rintro rfl
      exact lone rfl
    exact scans.escape isQuote nonempty length (decode_lineTerminator t)

theorem Piece.swallows_iff {p q : Piece quote} : p.Swallows q = true ↔
    p = .continuation .carriageReturn ∧ ∃ c isPlain, q = .plain c isPlain ∧ isBreak c = true := by
  constructor
  · intro swallows
    unfold Swallows at swallows
    split at swallows
    next c isPlain => exact ⟨rfl, c, isPlain, rfl, swallows⟩
    · cases swallows
  · rintro ⟨rfl, c, isPlain, rfl, breaks⟩
    exact breaks

/-- What comes after a lone carriage return begins with no line break unless it is swallowed. -/
theorem Piece.no_break_after {q : Piece quote}
    (keeps : (Piece.continuation .carriageReturn).Swallows q = false) :
    ∀ c ∈ q.text.head?, isBreak c = false := by
  cases q with
  | plain c isPlain =>
    intro d isHead
    cases isHead
    exact keeps
  | single letter c known => intro d isHead; cases isHead; decide
  | identity c isIdentity => intro d isHead; cases isHead; decide
  | number form digits c admits denotes => intro d isHead; cases isHead; decide
  | continuation t => intro d isHead; cases isHead; decide

/-- Pieces up to the closing quote. -/
theorem scans_pieces (isQuote : quote = '\x22' ∨ quote = '\x27') {pieces : List (Piece quote)}
    (zeros : pieces.IsChain fun p q =>
      p.text = ['\\', '0'] → ∀ d ∈ q.text.head?, d.isDigit = false) (rest : List Char) :
    Scans quote (pieces.flatMap Piece.text ++ quote :: rest) rest (readAs pieces) := by
  have notBackslash : quote ≠ '\\' := by rcases isQuote with rfl | rfl <;> decide
  fun_induction readAs pieces with
  | case1 => exact Scans.close rest
  | case2 p =>
    have noDigit : quote.isDigit = false := by rcases isQuote with rfl | rfl <;> decide
    have noBreak : isBreak quote = false := by rcases isQuote with rfl | rfl <;> decide
    have closed := Scans.piece notBackslash p (fun _ d isHead => by cases isHead; exact noDigit)
      (fun _ c isHead => by cases isHead; exact noBreak) (Scans.close rest)
    simpa using closed
  | case3 p q after swallows ih =>
    -- The escape of the carriage return takes the line break, so one piece fewer is read.
    obtain ⟨rfl, c, isPlain, rfl, breaks⟩ := Piece.swallows_iff.1 swallows
    have more := ih zeros.tail.tail
    exact more.escape notBackslash (List.cons_ne_nil '\r' [c])
      (escapeBodyLength_return_break breaks _) (decode_lineEnd (by decide) [c])
  | case4 p q after keeps ih =>
    have more := ih zeros.tail
    have head : (List.flatMap Piece.text (q :: after) ++ quote :: rest).head? = q.text.head? := by
      rw [List.flatMap_cons, List.append_assoc, List.head?_append_of_ne_nil _ q.text_ne_nil]
    rw [List.flatMap_cons, List.append_assoc]
    apply Scans.piece notBackslash p _ _ more
    · rw [head]
      exact (List.isChain_cons_cons.1 zeros).1
    · rintro rfl
      rw [head]
      exact Piece.no_break_after (by simpa using keeps)

theorem readAs_length_le (pieces : List (Piece quote)) :
    (readAs pieces).length ≤ (pieces.flatMap Piece.value).length := by
  fun_induction readAs pieces with
  | case1 => exact Nat.le_refl 0
  | case2 p => simp
  | case3 p q after swallows ih =>
    simp only [List.flatMap_cons, List.length_append]
    omega
  | case4 p q after keeps ih =>
    rw [List.flatMap_cons, List.length_append, List.length_append]
    omega

/-- Pieces are read as what they stand for exactly if none swallows the next. -/
theorem readAs_eq_iff {pieces : List (Piece quote)} :
    readAs pieces = pieces.flatMap Piece.value ↔
      pieces.IsChain fun p q => p.Swallows q = false := by
  fun_induction readAs pieces with
  | case1 => simp
  | case2 p => simp
  | case3 p q after swallows ih =>
    obtain ⟨rfl, c, isPlain, rfl, breaks⟩ := Piece.swallows_iff.1 swallows
    constructor
    · intro same
      -- The text is shorter than the spelled one by the line break.
      have shorter := readAs_length_le after
      rw [same, List.flatMap_cons, List.flatMap_cons, List.length_append, List.length_append]
        at shorter
      have spelled : (Piece.value (Piece.plain c isPlain : Piece quote)).length = 1 := rfl
      omega
    · intro keeps
      have kept := (List.isChain_cons_cons.1 keeps).1
      rw [swallows] at kept
      cases kept
  | case4 p q after keeps ih =>
    have kept : p.Swallows q = false := by simpa using keeps
    rw [List.flatMap_cons, List.append_cancel_left_eq, ih, List.isChain_cons_cons]
    exact ⟨fun rest => ⟨kept, rest⟩, fun both => both.2⟩

/-! ## Whole literals -/

/-- A spelled literal is read up to its closing quote, and its value is the spelled text without the
    line breaks that a continuation by a lone carriage return swallows. So it is the spelled text
    exactly if none is swallowed. -/
theorem scanString_spelling (isQuote : quote = '\x22' ∨ quote = '\x27')
    (spelling : Spelling quote) (rest : List Char) :
    ∃ s, scanString (quote :: (spelling.text ++ quote :: rest)) = some (s, rest) ∧
      s.value = .ok (Text.ofChars (readAs spelling.pieces)) ∧
      (s.value = .ok (Text.ofChars spelling.value) ↔
        spelling.pieces.IsChain fun p q => p.Swallows q = false) := by
  obtain ⟨parts, scanned, denotes⟩ := scans_pieces isQuote spelling.zeros rest []
  refine ⟨⟨quote, parts⟩, ?_, denotes, ?_⟩
  · rw [scanString, if_pos isQuote, Spelling.text, scanned]
    rfl
  · rw [← readAs_eq_iff, StringLiteral.value, denotes]
    simp only [Except.ok.injEq, List.reverse_nil, List.nil_append]
    exact Text.ofChars_inj

/-- A spelling with pieces of every kind. -/
def mixedSpelling : Spelling '\x22' where
  pieces :=
    [.plain '.' ⟨by decide, by decide, by decide, by decide⟩,
      .number .byte "2F".toList '/' ⟨List.all_eq_true.1 rfl, rfl⟩ (by decide),
      .continuation .carriageReturn,
      .number .unit "00e9".toList 'é' ⟨List.all_eq_true.1 rfl, rfl⟩ (by decide),
      .continuation .carriageReturnLineFeed,
      .single '0' '\x00' (by decide),
      .identity '\x22' ⟨by decide, by decide, by decide, by decide⟩,
      .number .braces "0001f600".toList '😀' ⟨List.all_eq_true.1 rfl, rfl⟩ (by decide),
      .plain '\u2028' ⟨by decide, by decide, by decide, by decide⟩]
  zeros := by simp [Piece.text, NumberForm.body, LineTerminator.text]

theorem scanString_mixedSpelling :
    ('\x22' = '\x22' ∨ '\x22' = '\x27') ∧
    ∃ s, scanString ('\x22' :: (mixedSpelling.text ++ '\x22' :: [';'])) = some (s, [';']) ∧
      s.value = .ok (Text.ofChars (readAs mixedSpelling.pieces)) ∧
      (s.value = .ok (Text.ofChars mixedSpelling.value) ↔
        mixedSpelling.pieces.IsChain fun p q => p.Swallows q = false) :=
  ⟨.inl rfl, scanString_spelling (.inl rfl) mixedSpelling [';']⟩

/-- A continuation by a lone carriage return, and a line separator that stands for itself. -/
def swallowedSeparator : Spelling '\x27' where
  pieces :=
    [.continuation .carriageReturn,
      .plain '\u2028' ⟨by decide, by decide, by decide, by decide⟩]
  zeros := by simp [Piece.text, NumberForm.body, LineTerminator.text]

/-- The literal spells a line separator, but its value is empty. -/
theorem swallowedSeparator_value :
    swallowedSeparator.value = ['\u2028'] ∧
    (scanString ('\x27' :: (swallowedSeparator.text ++ ['\x27']))).map
      (fun found => found.1.value) = some (.ok []) ∧
    importSites (parse .javascript
      ("require('".toList ++ (swallowedSeparator.text ++ "')".toList))) =
        .ok [⟨[], .requiring, 1, 1⟩] :=
  ⟨rfl, rfl, by decide +kernel⟩

end ImportPolicy.Script
