import ImportPolicy.Value.Display
import ImportPolicy.Yaml.Meaning

/-! # Styles of texts

A text is written plainly where it reads back as that text, otherwise in single quotes, and in
double quotes where it holds characters that need escapes. Long texts are folded at blanks.

* `Style`, `Style.of` — the styles, and the one that a text gets.
* `Style.write` — a text in a style. -/

namespace ImportPolicy.Yaml

/-- How a text is written. -/
inductive Style where
  | plain
  | single
  | double
  deriving DecidableEq

namespace Style

/-! ## The choice of a style -/

/-- The ends of lines. -/
def isBreak (c : CodePoint) : Bool :=
  c = .scalar '\n' || c = .scalar '\u0085' || c = .scalar '\u2028' || c = .scalar '\u2029'

/-- The characters that can stand around an indicator. -/
def isGap (c : CodePoint) : Bool :=
  isBreak c || c = .scalar ' ' || c = .scalar '\t' || c = .scalar '\r' || c = .scalar '\x00'

/-- Whether a character needs no escape. -/
def isOrdinary (c : CodePoint) : Bool := c = .scalar '\n' || (0x20 ≤ c.toNat && c.toNat ≤ 0x7E)

/-- Whether a text goes on with a gap or ends. -/
def gapAhead (t : Text) : Bool := t.head?.elim true isGap

/-- Whether characters of two kinds follow each other. -/
def hasPair (first second : CodePoint → Bool) : Text → Bool
  | a :: b :: rest => (first a && second b) || hasPair first second (b :: rest)
  | _ => false

/-- The blank. -/
def isSpace (c : CodePoint) : Bool := c = .scalar ' '

/-- The characters that mean something at the start of a plain text. -/
def indicators : Text := "#,[]\x7b\x7d&*!|>'\"%@\x60"

/-- Whether a colon or a number sign inside a text would end it. -/
def endsInside : Text → Bool
  | a :: b :: rest =>
    (b = .scalar ':' && gapAhead rest) || (b = .scalar '#' && isGap a) || endsInside (b :: rest)
  | _ => false

/-- Whether a text starts like something else than a text. -/
def startsOtherwise (t : Text) : Bool :=
  Text.startsWith t "---" || Text.startsWith t "..." ||
    match t with
    | [] => false
    | c :: rest =>
      indicators.contains c ||
        ((c = .scalar '?' || c = .scalar ':' || c = .scalar '-') && gapAhead rest)

/-- Whether a text holds the end of a line. -/
def isMultiline (t : Text) : Bool := t.any isBreak

/-- Whether a blank or the end of a line is at the edge of a text. -/
def hasEdge (t : Text) : Bool :=
  let isEdge (c : CodePoint) : Bool := isSpace c || isBreak c
  t.head?.elim false isEdge || t.getLast?.elim false isEdge

/-- Whether a text can be written plainly. -/
def allowsPlain (t : Text) : Bool :=
  t.all isOrdinary && !isMultiline t && !hasEdge t && !startsOtherwise t && !endsInside t &&
    Meaning.ofPlain t = .text

/-- Whether a text can be written in single quotes. -/
def allowsSingle (t : Text) : Bool :=
  t.all isOrdinary && !hasPair isBreak isSpace t && !hasPair isSpace isBreak t

/-- The style that a text gets. -/
def of (t : Text) : Style :=
  if allowsPlain t then .plain else if allowsSingle t then .single else .double

/-! ## Writing -/

/-- The column from which on a text is folded. -/
def width : Nat := 80

/-- The start of a new line. -/
def newLine (indent : Nat) : Text := .scalar '\n' :: List.replicate indent (.scalar ' ')

/-- A plain text from a column on. Where it may be folded, it gives the indentation of further
    lines. -/
def writePlain (fold : Option Nat) (column : Nat) : Text → Text
  | [] => []
  | [c] => [c]
  | a :: b :: rest =>
    match fold with
    | some indent =>
      if isSpace b && width < column + 1 && !isSpace a && !(rest.head?.elim true isSpace) then
        a :: newLine indent ++ writePlain fold indent rest
      else a :: writePlain fold (column + 1) (b :: rest)
    | none => a :: writePlain fold (column + 1) (b :: rest)

/-- The inside of single quotes from a column on. A single quote is written twice, and the end of a
    line as an empty line. -/
def writeSingle (fold : Option Nat) (column : Nat) (before : Option CodePoint) : Text → Text
  | [] => []
  | c :: rest =>
    if c = .scalar '\x27' then c :: c :: writeSingle fold (column + 2) (some c) rest
    else
      let indent := fold.getD 0
      if isBreak c then
        let opening : Text := if before.elim true (!isBreak ·) then "\n" else []
        let closing : Text :=
          if rest.head?.elim true (!isBreak ·) then List.replicate indent (.scalar ' ') else []
        opening ++ c :: closing ++ writeSingle fold indent (some c) rest
      else if isSpace c && fold.isSome && width < column && before.elim false (!isSpace ·) &&
          !(rest.head?.elim true isSpace) then
        newLine indent ++ writeSingle fold indent (some c) rest
      else c :: writeSingle fold (column + 1) (some c) rest

/-- The letters that stand for characters behind a backslash. -/
def escapeLetters : List (Nat × Char) :=
  [(0, '0'), (7, 'a'), (8, 'b'), (9, 't'), (10, 'n'), (11, 'v'), (12, 'f'), (13, 'r'),
   (0x1B, 'e'), (0x22, '\x22'), (0x5C, '\\'), (0x85, 'N'), (0xA0, '_'), (0x2028, 'L'),
   (0x2029, 'P')]

/-- A character behind a backslash: a letter, or its number in two, four or eight digits. -/
def escaped (c : CodePoint) : Text :=
  let n := c.toNat
  let digits (letter : Char) (count : Nat) : List Char :=
    letter :: (Text.hexDigits count n).map Char.toUpper
  Text.ofChars <| '\\' ::
    match escapeLetters.find? fun e => e.1 = n with
    | some (_, letter) => [letter]
    | none =>
      if n ≤ 0xFF then digits 'x' 2 else if n ≤ 0xFFFF then digits 'u' 4 else digits 'U' 8

/-- Whether a character is escaped in double quotes. -/
def needsEscape (c : CodePoint) : Bool :=
  c.toNat < 0x20 || 0x7E < c.toNat || c = .scalar '\x22' || c = .scalar '\\'

/-- The inside of double quotes from a column on. It is folded with a backslash, and a blank on a
    new line gets one as well. It is folded before a blank, and before any character where `edge`
    says that an escape has just been written; the first and the last character stay where they
    are. -/
def writeDouble (fold : Option Nat) (column : Nat) (first edge : Bool) : Text → Text
  | [] => []
  | c :: rest =>
    let mayFold := fold.isSome && !first && !rest.isEmpty
    let indent := fold.getD 0
    let parting : Text := .scalar '\\' :: newLine indent
    if needsEscape c then
      let column := column + (escaped c).length
      if mayFold && width + 1 < column then
        let blank : Text := if rest.head? = some (.scalar ' ') then "\\" else []
        escaped c ++ parting ++ blank
          ++ writeDouble fold (indent + blank.length) false true rest
      else escaped c ++ writeDouble fold column false true rest
    else if mayFold && (isSpace c || edge) && width < column then
      let blank : Text := if isSpace c then "\\" else []
      parting ++ blank ++ c :: writeDouble fold (indent + blank.length + 1) false false rest
    else c :: writeDouble fold (column + 1) false false rest

/-- A text in the style that it gets, from a column on. Where it may be folded, `fold` is the
    indentation of further lines. -/
def write (fold : Option Nat) (column : Nat) (t : Text) : Text :=
  match of t with
  | .plain => writePlain fold column t
  | .single => "'" ++ writeSingle fold (column + 1) none t ++ "'"
  | .double => "\"" ++ writeDouble fold (column + 1) true true t ++ "\""

end Style

end ImportPolicy.Yaml
