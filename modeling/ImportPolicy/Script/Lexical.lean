import ImportPolicy.Script.Node

/-! # Lexical structure

The characters that make up the tokens of a script, and what may stand between tokens.

* `isBlank`, `isNameChar` — character classes.
* `scanTrivia` — the blanks and comments at the front of a text.
* `wordLength`, `numberLength`, `regexLength` — lengths of tokens.
* `scanParts` — the inside of a string literal. -/

namespace ImportPolicy.Script

/-! ## Character classes -/

/-- Whether a character separates tokens. -/
def isBlank (c : Char) : Bool :=
  let n := c.toNat
  (0x09 ≤ n && n ≤ 0x0D) || n = 0x20 || n = 0x85 || n = 0xA0 || n = 0x1680 ||
    (0x2000 ≤ n && n ≤ 0x200B) || n = 0x2028 || n = 0x2029 || n = 0x202F || n = 0x205F ||
    n = 0x2060 || n = 0x3000 || n = 0xFEFF

/-- Whether a character breaks a line: a semicolon may be left out before one. -/
def isBreak (c : Char) : Bool := c = '\n' || c.toNat = 0x2028 || c.toNat = 0x2029

/-- Whether a character ends a comment that runs to the end of its line. -/
def endsLineComment (c : Char) : Bool := c = '\r' || isBreak c

/-- The ASCII characters that stand in no name. -/
def nonNameChars : List Char := ":;\x60\"'@#.,|^&<=>+-*/\\%?!~()[]\x7b\x7d".toList

/-- Whether a character may stand in a name after its first character. -/
def isNameChar (c : Char) : Bool :=
  !(c.toNat < 0x20 || isBlank c || (c.toNat < 0x80 && nonNameChars.contains c))

/-- Whether a character is a hexadecimal digit. -/
def isHex (c : Char) : Bool :=
  ('0' ≤ c && c ≤ '9') || ('a' ≤ c && c ≤ 'f') || ('A' ≤ c && c ≤ 'F')

/-- Whether a character is an octal digit. -/
def isOctal (c : Char) : Bool := '0' ≤ c && c ≤ '7'

/-! ## Blanks and comments -/

/-- What the scanner of blanks and comments is inside of. -/
inductive TriviaMode where
  | between
  | lineComment
  | markupComment
  | blockComment
  deriving DecidableEq

/-- The kind of the leaf that a mode fills. -/
def TriviaMode.leafKind : TriviaMode → LeafKind
  | .between => .blank
  | .lineComment => .comment
  | .markupComment => .markupComment
  | .blockComment => .comment

/-- The leaf of the characters read so far, if there are any. They are kept in reverse. -/
def flush (mode : TriviaMode) (seen : List Char) : List Node :=
  if seen.isEmpty then [] else [.leaf ⟨mode.leafKind, seen.reverse⟩]

/-- The blanks and comments at the front of a text, and what follows them. The flag allows comments
    in the style of markup. A block comment that is not closed runs to the end. -/
def scanTrivia (markup : Bool) : TriviaMode → List Char → List Char → List Node × List Char
  | mode, seen, [] => (flush mode seen, [])
  | .between, seen, '/' :: '/' :: rest =>
    let more := scanTrivia markup .lineComment ['/', '/'] rest
    (flush .between seen ++ more.1, more.2)
  | .between, seen, '/' :: '*' :: rest =>
    let more := scanTrivia markup .blockComment ['*', '/'] rest
    (flush .between seen ++ more.1, more.2)
  | .between, seen, '<' :: '!' :: '-' :: '-' :: rest =>
    if markup then
      let more := scanTrivia markup .markupComment ['-', '-', '!', '<'] rest
      (flush .between seen ++ more.1, more.2)
    else (flush .between seen, '<' :: '!' :: '-' :: '-' :: rest)
  | .between, seen, '-' :: '-' :: '>' :: rest =>
    if markup then
      let more := scanTrivia markup .markupComment ['>', '-', '-'] rest
      (flush .between seen ++ more.1, more.2)
    else (flush .between seen, '-' :: '-' :: '>' :: rest)
  | .between, seen, c :: rest =>
    if isBlank c then scanTrivia markup .between (c :: seen) rest
    else (flush .between seen, c :: rest)
  | .lineComment, seen, c :: rest =>
    if endsLineComment c then
      let more := scanTrivia markup .between [c] rest
      (flush .lineComment seen ++ more.1, more.2)
    else scanTrivia markup .lineComment (c :: seen) rest
  | .markupComment, seen, c :: rest =>
    if isBreak c then
      let more := scanTrivia markup .between [c] rest
      (flush .markupComment seen ++ more.1, more.2)
    else scanTrivia markup .markupComment (c :: seen) rest
  | .blockComment, seen, '*' :: '/' :: rest =>
    let more := scanTrivia markup .between [] rest
    (flush .blockComment ('/' :: '*' :: seen) ++ more.1, more.2)
  | .blockComment, seen, c :: rest => scanTrivia markup .blockComment (c :: seen) rest

theorem textOf_flush (mode : TriviaMode) (seen : List Char) :
    textOf (flush mode seen) = seen.reverse := by
  unfold flush
  split
  · next h => simp [List.isEmpty_iff.1 h]
  · simp [Node.text]

/-- Nothing is lost between tokens. -/
theorem text_scanTrivia (markup : Bool) (mode : TriviaMode) (seen input : List Char) :
    textOf (scanTrivia markup mode seen input).1 ++ (scanTrivia markup mode seen input).2 =
      seen.reverse ++ input := by
  fun_induction scanTrivia markup mode seen input <;>
    simp_all +zetaDelta [textOf_flush]

/-- The text after the blanks and comments at its front, where an operand may stand. -/
def next (input : List Char) : List Char := (scanTrivia true .between [] input).2

/-- The text after the blanks and comments at its front, where an operator may stand. -/
def nextOperator (input : List Char) : List Char := (scanTrivia false .between [] input).2

/-- Whether a line breaks before the next token. -/
def breaksLine (input : List Char) : Bool :=
  (textOf (scanTrivia false .between [] input).1).any isBreak

/-! ## Tokens -/

/-- The length of an escape in a name: `u` and four hexadecimal digits, or digits in braces. The
    text starts after the backslash. -/
def nameEscapeLength : List Char → Nat
  | 'u' :: '\x7b' :: rest =>
    let digits := rest.takeWhile isHex
    match digits, rest.drop digits.length with
    | _ :: _, '\x7d' :: _ => digits.length + 3
    | _, _ => 0
  | 'u' :: a :: b :: c :: d :: _ => if isHex a && isHex b && isHex c && isHex d then 5 else 0
  | _ => 0

/-- The length of the rest of a name. The first argument counts characters of an escape that are
    still to come. -/
def nameTailLength : Nat → List Char → Nat
  | _, [] => 0
  | pending + 1, _ :: rest => 1 + nameTailLength pending rest
  | 0, '\\' :: rest =>
    match nameEscapeLength rest with
    | 0 => 0
    | n + 1 => 1 + nameTailLength (n + 1) rest
  | 0, c :: rest => if isNameChar c then 1 + nameTailLength 0 rest else 0

/-- The length of the name at the front of a text. A name does not start with a digit. -/
def wordLength (input : List Char) : Nat :=
  match input with
  | c :: _ => if c.isDigit then 0 else nameTailLength 0 input
  | [] => 0

/-- The name at the front of a text. -/
def wordAt (input : List Char) : List Char := input.take (wordLength input)

/-- Whether the name at the front of a text is the given one. -/
def isWord (word : String) (input : List Char) : Bool := wordAt input = word.toList

/-- Whether a text starts with a string. -/
def startsWith (start : String) (input : List Char) : Bool := start.toList.isPrefixOf input

/-- The number of digits at the front of a text. Underscores may stand after the first. -/
def digitsLength (input : List Char) : Nat :=
  match input with
  | c :: _ => if c.isDigit then (input.takeWhile fun d => d.isDigit || d = '_').length else 0
  | [] => 0

/-- The length of an exponent with its letter. -/
def exponentLength : List Char → Nat
  | e :: rest =>
    if e = 'e' ∨ e = 'E' then
      match rest with
      | sign :: digits =>
        if (sign = '+' ∨ sign = '-') then
          let n := digitsLength digits
          if n = 0 then 0 else n + 2
        else
          let n := digitsLength rest
          if n = 0 then 0 else n + 1
      | [] => 0
    else 0
  | [] => 0

/-- The length of the number at the front of a text: with a base mark, or with a fraction, an
    exponent or the mark of a big integer. -/
def numberLength (input : List Char) : Nat :=
  match input with
  | '0' :: base :: rest =>
    if ['x', 'X', 'o', 'O', 'b', 'B'].contains base then
      2 + (rest.takeWhile fun c => c.isAlphanum || c = '_').length
    else decimal input
  | _ => decimal input
where
  /-- The length of a decimal number. -/
  decimal (input : List Char) : Nat :=
    let whole := digitsLength input
    let afterWhole := input.drop whole
    let fraction :=
      match afterWhole with
      | '.' :: rest =>
        let digits := digitsLength rest
        if whole = 0 ∧ digits = 0 then 0 else digits + 1
      | _ => 0
    if whole + fraction = 0 then 0
    else
      let afterFraction := afterWhole.drop fraction
      let exponent := exponentLength afterFraction
      let big :=
        match afterFraction.drop exponent with
        | 'n' :: _ => 1
        | _ => 0
      whole + fraction + exponent + big

/-- The length of the inside of a regular expression with its closing slash, or zero if it is not
    closed on its line. The first argument tells whether a class is open, the second whether the
    next character is escaped. -/
def regexBodyLength : Bool → Bool → List Char → Nat
  | _, _, [] => 0
  | inClass, escaped, c :: rest =>
    if c = '\n' then 0
    else
      let more (inClass escaped : Bool) :=
        match regexBodyLength inClass escaped rest with
        | 0 => 0
        | n + 1 => n + 2
      if escaped then more inClass false
      else if c = '\\' then more inClass true
      else if c = '[' then more true false
      else if c = ']' then more false false
      else if c = '/' && !inClass then 1
      else more inClass false

/-- The length of the regular expression at the front of a text, which starts with a slash. -/
def regexLength : List Char → Nat
  | '/' :: rest =>
    match regexBodyLength false false rest with
    | 0 => 0
    | n + 1 =>
      n + 2 + ((rest.drop (n + 1)).takeWhile fun c => 'a' ≤ c && c ≤ 'z').length
  | _ => 0

/-- The length of template text up to a substitution, the closing quote or the end. The flag tells
    whether the next character is escaped. -/
def templateTextLength : Bool → List Char → Nat
  | _, [] => 0
  | true, _ :: rest => 1 + templateTextLength false rest
  | false, '\\' :: rest => 1 + templateTextLength true rest
  | false, '$' :: '\x7b' :: _ => 0
  | false, c :: rest => if c = '\x60' then 0 else 1 + templateTextLength false rest

/-! ## String literals -/

/-- The length of the body of an escape: octal digits, hexadecimal digits after `x` or `u`, a
    carriage return with the line break after it, or one other character. -/
def escapeBodyLength : List Char → Nat
  | 'x' :: a :: b :: _ => if isHex a && isHex b then 3 else 1
  | 'u' :: rest => max 1 (nameEscapeLength ('u' :: rest))
  | '\r' :: c :: _ => if isBreak c then 2 else 1
  | a :: rest =>
    if isOctal a then 1 + ((rest.take 2).takeWhile isOctal).length else 1
  | [] => 1

/-- The piece of characters read so far, which are kept in reverse. -/
def flushFragment (seen : List Char) : List StringPart :=
  if seen.isEmpty then [] else [.fragment seen.reverse]

/-- The pieces of a string literal up to its closing quote, and what follows it. The number counts
    the characters of an escape that are still to come. A line end is no part of a literal. -/
def scanParts (quote : Char) : Nat → List Char → List Char → Option (List StringPart × List Char)
  | _, _, [] => none
  | 0, seen, c :: rest =>
    if c = quote then some (flushFragment seen, rest)
    else if c = '\\' then
      (scanParts quote (escapeBodyLength rest) ['\\'] rest).map fun more =>
        (flushFragment seen ++ more.1, more.2)
    else if c = '\n' ∨ c = '\r' then none
    else scanParts quote 0 (c :: seen) rest
  | 1, seen, c :: rest =>
    (scanParts quote 0 [] rest).map fun more => (.escape (c :: seen).reverse :: more.1, more.2)
  | pending + 2, seen, c :: rest => scanParts quote (pending + 1) (c :: seen) rest

theorem text_flushFragment (seen : List Char) :
    (flushFragment seen).flatMap StringPart.text = seen.reverse := by
  unfold flushFragment
  split
  · next h => simp [List.isEmpty_iff.1 h]
  · simp [StringPart.text]

/-- The pieces hold every character up to the closing quote. -/
theorem text_scanParts {quote : Char} {pending : Nat} {seen input : List Char}
    {result : List StringPart × List Char} (h : scanParts quote pending seen input = some result) :
    result.1.flatMap StringPart.text ++ quote :: result.2 = seen.reverse ++ input := by
  fun_induction scanParts quote pending seen input generalizing result with
  | case1 => simp at h
  | case2 seen rest =>
    simp only [Option.some.injEq] at h
    subst h
    simp [text_flushFragment]
  | case3 seen rest hq ih =>
    obtain ⟨more, hm, rfl⟩ := Option.map_eq_some_iff.1 h
    have := ih hm
    simp_all [text_flushFragment]
  | case4 => simp at h
  | case5 seen c rest _ _ _ ih => simpa using ih h
  | case6 seen c rest ih =>
    obtain ⟨more, hm, rfl⟩ := Option.map_eq_some_iff.1 h
    have := ih hm
    simp_all [StringPart.text]
  | case7 pending seen c rest ih => simpa using ih h

/-- The string literal at the front of a text, and what follows it. -/
def scanString : List Char → Option (StringLiteral × List Char)
  | quote :: rest =>
    if quote = '\x22' ∨ quote = '\x27' then
      (scanParts quote 0 [] rest).map fun found => (⟨quote, found.1⟩, found.2)
    else none
  | [] => none

theorem text_scanString {input : List Char} {result : StringLiteral × List Char}
    (h : scanString input = some result) : result.1.text ++ result.2 = input := by
  unfold scanString at h
  split at h
  · split at h
    · obtain ⟨found, hf, rfl⟩ := Option.map_eq_some_iff.1 h
      have := text_scanParts hf
      simp_all [StringLiteral.text]
    · simp at h
  · simp at h

end ImportPolicy.Script
