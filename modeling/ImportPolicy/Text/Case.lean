import ImportPolicy.Text.Basic
import ImportPolicy.Text.CaseTable

/-! # Letter case

Full case mapping: a letter may become several code points, and a capital sigma becomes a final
sigma at the end of a word.

* `Text.lower`, `Text.upper` — the mapped text. -/

namespace ImportPolicy

namespace CodePoint

/-- The code points of a case mapping that moves letters by `runs` and expands some. -/
def mapCase (runs : List Text.CaseRun) (expansions : List (Nat × List Nat)) (c : CodePoint) :
    Text :=
  match expansions.lookup c.toNat with
  | some numbers => numbers.filterMap ofNat?
  | none =>
    match runs.findSome? (·.partner? c.toNat) with
    | some partner => (ofNat? partner).toList
    | none => [c]

/-- Whether a code point is a letter with case that counts as a sigma's neighbour. -/
def isCased (c : CodePoint) : Bool := Text.inRanges Text.casedRanges c.toNat

/-- Whether a code point is passed over when a sigma's neighbours are looked at. -/
def isCaseIgnorable (c : CodePoint) : Bool := Text.inRanges Text.caseIgnorableRanges c.toNat

end CodePoint

namespace Text

/-- Whether the first code point that is not passed over is a letter with case. -/
def meetsCased (t : Text) : Bool :=
  match t.dropWhile CodePoint.isCaseIgnorable with
  | c :: _ => c.isCased
  | [] => false

/-- The lower case of a text whose preceding text, read backwards, is `before`. A capital sigma
    is final if a letter precedes it and none follows. -/
def lowerAfter (before : Text) : Text → Text
  | [] => []
  | c :: rest =>
    let here :=
      if c = .scalar 'Σ' then
        if meetsCased before && !meetsCased rest then [.scalar 'ς'] else [.scalar 'σ']
      else c.mapCase lowerRuns lowerExpansions
    here ++ lowerAfter (c :: before) rest

/-- The text in lower case. -/
def lower (t : Text) : Text := lowerAfter [] t

/-- The text in upper case. -/
def upper (t : Text) : Text := t.flatMap (CodePoint.mapCase upperRuns upperExpansions)

end Text

end ImportPolicy
