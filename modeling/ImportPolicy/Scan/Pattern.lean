/-! # Patterns of file names

A pattern is a list of pieces. A star and a question mark stand for characters other than slashes,
and two stars for any characters of one line.

* `Piece` — what a part of a pattern stands for.
* `Piece.ofGlob` — the pieces that a written pattern has.
* `Piece.matchAll` — whether pieces can stand for the start of a text. -/

namespace ImportPolicy.Scan

/-- A part of a pattern: one character, any run within a name, any run within a line, nothing or
    a run that ends with a slash, any character of a name, or a character inside or outside of
    ranges. -/
inductive Piece where
  | point (c : Char)
  | nameRun
  | lineRun
  | directories
  | anyPoint
  | oneOf (negated : Bool) (ranges : List (Char × Char))
  deriving DecidableEq

/-- Why a written pattern has no pieces: it is empty where a character is needed, or it has a class
    of characters that makes no sense. -/
inductive PatternError where
  | empty
  | badClass
  deriving DecidableEq

namespace Piece

/-! ## Classes of characters -/

/-- The ranges that the characters of a class write. A hyphen between two characters makes a range
    of them, which must not be backwards. -/
def rangesOf? : List Char → Option (List (Char × Char))
  | [] => some []
  | low :: '-' :: high :: rest =>
    if high < low then none else (rangesOf? rest).map ((low, high) :: ·)
  | c :: rest => (rangesOf? rest).map ((c, c) :: ·)

/-- The characters of a class and the text behind its end. A closing bracket at the start is a
    member. -/
def classBody? (cs : List Char) : Option (List Char × List Char) :=
  let skipped := match cs with
    | '!' :: ']' :: _ => 2
    | '!' :: _ => 1
    | ']' :: _ => 1
    | _ => 0
  let body := (cs.drop skipped).takeWhile (· ≠ ']')
  match cs.drop (skipped + body.length) with
  | ']' :: rest => some (cs.take (skipped + body.length), rest)
  | _ => none

/-- The piece of a class. Slashes in it mean nothing, and an exclamation mark at its start negates
    it. -/
def ofClass (body : List Char) : Except PatternError Piece :=
  match body.filter (· ≠ '/') with
  | [] => .error .empty
  | ['!'] => .error .badClass
  | '!' :: members => (rangesOf? members).elim (.error .badClass) fun r => .ok (.oneOf true r)
  | members => (rangesOf? members).elim (.error .badClass) fun r => .ok (.oneOf false r)

theorem length_of_classBody? {cs body rest : List Char} (h : classBody? cs = some (body, rest)) :
    rest.length < cs.length := by
  simp only [classBody?] at h
  split at h
  · next heq =>
    simp only [Option.some.injEq, Prod.mk.injEq] at h
    have := congrArg List.length heq
    rw [List.length_drop, List.length_cons, h.2] at this
    omega
  · simp at h

/-! ## Written patterns -/

/-- The pieces of a written pattern, with a class that makes no sense as an error of its own. A
    bracket that nothing closes is a character. -/
def ofGlob (cs : List Char) : List (Except PatternError Piece) :=
  match cs with
  | [] => []
  | '*' :: '*' :: '/' :: rest => .ok .directories :: ofGlob rest
  | '*' :: '*' :: rest => .ok .lineRun :: ofGlob rest
  | '*' :: rest => .ok .nameRun :: ofGlob rest
  | '?' :: rest => .ok .anyPoint :: ofGlob rest
  | '[' :: tail =>
    match h : classBody? tail with
    | some (body, rest) =>
      have := length_of_classBody? h
      ofClass body :: ofGlob rest
    -- Nothing closes the bracket.
    | none => .ok (.point '[') :: ofGlob tail
  | c :: rest => .ok (.point c) :: ofGlob rest
termination_by cs.length

/-! ## Matching -/

/-- The rests of a text behind runs of characters that satisfy a test, the empty run included. -/
def restsWhile (test : Char → Bool) : List Char → List (List Char)
  | [] => [[]]
  | c :: rest => (c :: rest) :: if test c then restsWhile test rest else []

/-- The rests of a text behind its slashes, as far as its characters satisfy a test. -/
def restsBehindSlash (test : Char → Bool) : List Char → List (List Char)
  | [] => []
  | '/' :: rest => rest :: restsBehindSlash test rest
  | c :: rest => if test c then restsBehindSlash test rest else []

/-- Whether a character is in one of some ranges. -/
def inRanges (ranges : List (Char × Char)) (c : Char) : Bool :=
  ranges.any fun r => r.1 ≤ c && c ≤ r.2

/-- The rests of a text behind what a piece can stand for. -/
def rests (piece : Piece) (cs : List Char) : List (List Char) :=
  match piece with
  | .nameRun => restsWhile (· ≠ '/') cs
  | .lineRun => restsWhile (· ≠ '\n') cs
  | .directories => cs :: restsBehindSlash (· ≠ '\n') cs
  | .point c =>
    match cs with
    | d :: rest => if c = d then [rest] else []
    | [] => []
  | .anyPoint =>
    match cs with
    | d :: rest => if d = '/' then [] else [rest]
    | [] => []
  | .oneOf negated ranges =>
    match cs with
    | d :: rest => if inRanges ranges d != negated then [rest] else []
    | [] => []

/-- Whether pieces can stand for the start of a text whose rest satisfies a test. -/
def matchAll (done : List Char → Bool) : List Piece → List Char → Bool
  | [], cs => done cs
  | piece :: pieces, cs => (rests piece cs).any (matchAll done pieces)

end Piece

end ImportPolicy.Scan
