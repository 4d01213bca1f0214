import ImportPolicy.Yaml.Block
import ImportPolicy.Yaml.Plain
import ImportPolicy.Yaml.Quoted
import ImportPolicy.Yaml.Token

/-! # Cutting a text into tokens

Goes through a text from front to back. Indentation opens and closes block collections. A token that
may turn out to be a key is remembered until a colon follows it or its line ends; the colon then
puts the key mark in front of it.

* `Scanner` — what is known at a place of the text.
* `Scanner.step` — the scanner behind the next token.
* `tokens` — the tokens of a text. -/

namespace ImportPolicy.Yaml

/-- A token that may be a key: where it stands among the tokens and in the text, and whether it has
    to be one. -/
structure Candidate where
  token : Nat
  required : Bool
  index : Nat
  line : Nat
  column : Nat

/-- What is known at a place: the tokens so far, the depth of flow collections, the indentation of
    the open block collections from the innermost, and the candidates for keys at each depth. -/
structure Scanner where
  cursor : Cursor
  tokens : Array Token := #[]
  depth : Nat := 0
  indents : List Int := []
  allowsKey : Bool := true
  candidates : List (Nat × Candidate) := []

namespace Scanner

/-- The indentation of the innermost block collection. -/
def indent (s : Scanner) : Int := s.indents.headD (-1)

/-- Whether the place is inside a flow collection. -/
def inFlow (s : Scanner) : Bool := s.depth ≠ 0

/-- The scanner with one more token. -/
def emit (s : Scanner) (t : Token) : Scanner := { s with tokens := s.tokens.push t }

/-- The scanner with a token put in at an earlier place. -/
def insert (s : Scanner) (place : Nat) (t : Token) : Scanner :=
  { s with tokens := (s.tokens.extract 0 place).push t ++ s.tokens.extract place s.tokens.size }

/-- The candidate at the present depth. -/
def candidate? (s : Scanner) : Option Candidate :=
  (s.candidates.find? fun e => e.1 = s.depth).map (·.2)

/-- The scanner without the candidate at the present depth, which may not be one that has to be a
    key. -/
def dropCandidate (s : Scanner) : Except Failure Scanner :=
  match s.candidate? with
  | some k =>
    if k.required then .error .malformed
    else .ok { s with candidates := s.candidates.filter fun e => e.1 ≠ s.depth }
  | none => .ok s

/-- The scanner with the next token as a candidate, where keys are allowed. -/
def saveCandidate (s : Scanner) : Except Failure Scanner :=
  if s.allowsKey then do
    let s ← s.dropCandidate
    let required := !s.inFlow && s.indent = Int.ofNat s.cursor.column
    let k : Candidate := ⟨s.tokens.size, required, s.cursor.index, s.cursor.line, s.cursor.column⟩
    return { s with candidates := (s.depth, k) :: s.candidates }
  else .ok s

/-- Whether a candidate can no longer be a key: it is on an earlier line or too far back. -/
def isStale (s : Scanner) (k : Candidate) : Bool :=
  k.line ≠ s.cursor.line || k.index + 1024 < s.cursor.index

/-- The scanner without candidates that can no longer be keys. -/
def dropStale (s : Scanner) : Except Failure Scanner :=
  let stale := s.candidates.filter fun e => s.isStale e.2
  if stale.any fun e => e.2.required then .error .malformed
  else .ok { s with candidates := s.candidates.filter fun e => !s.isStale e.2 }

/-- Closes the block collections that are indented more than a column. -/
def unwind (column : Int) : List Int → Nat × List Int
  | [] => (0, [])
  | indent :: outer =>
    if column < indent then
      let (n, rest) := unwind column outer
      (n + 1, rest)
    else (0, indent :: outer)

/-- The scanner after closing the block collections that are indented more than a column. -/
def unwindTo (s : Scanner) (column : Int) : Scanner :=
  if s.inFlow then s
  else
    let (n, indents) := unwind column s.indents
    { s with indents, tokens := s.tokens ++ Array.replicate n Token.blockEnd }

/-- The scanner with a block collection opened at a column, if that is further in. -/
def openBlock (s : Scanner) (column : Nat) (place : Nat) (t : Token) : Scanner :=
  if s.indent < Int.ofNat column then
    { s.insert place t with indents := Int.ofNat column :: s.indents }
  else s

/-- The place of the next token. A line break outside flow collections allows a key. -/
def toNextToken : Nat → Scanner → Scanner
  | 0, s => s
  | fuel + 1, s =>
    let c := s.cursor.skipSpaces.skipComment
    match c.lineBreak? with
    | some (_, c) => toNextToken fuel { s with cursor := c, allowsKey := s.allowsKey || !s.inFlow }
    | none => { s with cursor := c }

/-! ## Single tokens -/

/-- The scanner behind so many characters, with a token. -/
def take (s : Scanner) (n : Nat) (t : Token) : Scanner :=
  { s.emit t with cursor := s.cursor.skip n }

/-- The start or the end of a document. -/
def marker (s : Scanner) (t : Token) : Except Failure Scanner := do
  let s ← (s.unwindTo (-1)).dropCandidate
  return { s.take 3 t with allowsKey := false }

/-- A directive. -/
def directive (s : Scanner) : Except Failure Scanner := do
  let s ← (s.unwindTo (-1)).dropCandidate
  let (d, c) ← Directive.scan s.cursor
  return { s.emit (.directive d) with cursor := c, allowsKey := false }

/-- The start of a flow collection. -/
def flowStart (s : Scanner) (t : Token) : Except Failure Scanner := do
  let s ← s.saveCandidate
  return { s.take 1 t with depth := s.depth + 1, allowsKey := true }

/-- The end of a flow collection, which has to be open. -/
def flowEnd (s : Scanner) (t : Token) : Except Failure Scanner := do
  if !s.inFlow then throw .malformed
  let s ← s.dropCandidate
  return { s.take 1 t with depth := s.depth - 1, allowsKey := false }

/-- A comma between the items of a flow collection. -/
def flowItem (s : Scanner) : Except Failure Scanner := do
  let s ← s.dropCandidate
  return { s.take 1 .flowItem with allowsKey := true }

/-- Opens a block collection at the present column, where keys have to be allowed. -/
def openHere (s : Scanner) (t : Token) : Except Failure Scanner :=
  if s.inFlow then .ok s
  else if s.allowsKey then .ok (s.openBlock s.cursor.column s.tokens.size t)
  else .error .malformed

/-- The dash before an item of a block sequence. -/
def blockItem (s : Scanner) : Except Failure Scanner := do
  let s ← (← s.openHere .blockSequence).dropCandidate
  return { s.take 1 .blockItem with allowsKey := true }

/-- The question mark before a key. -/
def keyMark (s : Scanner) : Except Failure Scanner := do
  let s ← (← s.openHere .blockMapping).dropCandidate
  return { s.take 1 .key with allowsKey := !s.inFlow }

/-- The colon before a value. It makes the candidate at the present depth a key. -/
def valueMark (s : Scanner) : Except Failure Scanner :=
  match s.candidate? with
  | some k =>
    -- The key mark goes in front of the candidate, and a new mapping in front of the mark.
    let s := { s.insert k.token .key with
      candidates := s.candidates.filter fun e => e.1 ≠ s.depth }
    let s := if s.inFlow then s else s.openBlock k.column k.token .blockMapping
    .ok { s.take 1 .value with allowsKey := false }
  -- A colon without a candidate gives a value to the key that a question mark opened.
  | none => do
    let s ← (← s.openHere .blockMapping).dropCandidate
    return { s.take 1 .value with allowsKey := !s.inFlow }

/-- A token that may be a key, read by a function. -/
def keyable (s : Scanner) (read : Cursor → Except Failure (Token × Cursor)) :
    Except Failure Scanner := do
  let s ← s.saveCandidate
  let (t, c) ← read s.cursor
  return { s.emit t with cursor := c, allowsKey := false }

/-- A plain scalar. It may end at the start of a later line, where a key is allowed. -/
def plain (s : Scanner) : Except Failure Scanner := do
  let s ← s.saveCandidate
  let (text, c, crossed) := Plain.scan s.inFlow (s.indent + 1) s.cursor
  return { s.emit (.scalar (Text.ofChars text) true) with cursor := c, allowsKey := crossed }

/-- A block scalar. -/
def block (s : Scanner) (folded : Bool) : Except Failure Scanner := do
  let s ← s.dropCandidate
  let (text, c) ← Block.scan folded s.indent s.cursor
  return { s.emit (.scalar (Text.ofChars text) false) with cursor := c, allowsKey := true }

/-- Whether a plain scalar can start at a place. -/
def startsPlain (s : Scanner) : Bool :=
  let ch := s.cursor.peek
  !(endsWord ch || ['-', '?', ':', ',', '[', ']', '\x7b', '\x7d', '#', '&', '*', '!', '|', '>',
      '\x27', '\x22', '%', '@', '\x60'].contains ch) ||
    (!endsWord (s.cursor.peekAt 1) && (ch = '-' || (!s.inFlow && (ch = '?' || ch = ':'))))

/-- Whether an indicator stands at a place: it counts before a gap, and in flow collections
    always. -/
def isIndicator (s : Scanner) : Bool := s.inFlow || endsWord (s.cursor.peekAt 1)

/-- The scanner behind the next token, which starts at the present place. -/
def token (s : Scanner) : Except Failure Scanner :=
  let c := s.cursor
  -- Directives and marks of documents count at the start of a line only.
  if c.peek = '%' ∧ c.column = 0 then s.directive
  else if c.column = 0 ∧ c.atMarker then
    s.marker (if c.peek = '-' then .documentStart else .documentEnd)
  else if c.peek = '[' then s.flowStart .flowSequence
  else if c.peek = '\x7b' then s.flowStart .flowMapping
  else if c.peek = ']' then s.flowEnd .flowSequenceEnd
  else if c.peek = '\x7d' then s.flowEnd .flowMappingEnd
  else if c.peek = ',' then s.flowItem
  else if c.peek = '-' ∧ endsWord (c.peekAt 1) then s.blockItem
  else if c.peek = '?' ∧ s.isIndicator then s.keyMark
  else if c.peek = ':' ∧ s.isIndicator then s.valueMark
  else if c.peek = '*' then s.keyable fun c => (Name.scan c).map fun p => (.alias p.1, p.2)
  else if c.peek = '&' then s.keyable fun c => (Name.scan c).map fun p => (.anchor p.1, p.2)
  else if c.peek = '!' then s.keyable fun c => (Tag.scan c).map fun p => (.tag p.1, p.2)
  else if c.peek = '|' ∧ !s.inFlow then s.block false
  else if c.peek = '>' ∧ !s.inFlow then s.block true
  else if c.peek = '\x27' then
    s.keyable fun c => (Quoted.single c).map fun p => (.scalar p.1 false, p.2)
  else if c.peek = '\x22' then
    s.keyable fun c => (Quoted.double c).map fun p => (.scalar p.1 false, p.2)
  else if s.startsPlain then s.plain
  else .error .malformed

/-- The scanner behind the next token; nothing at the end of the text. -/
def step (s : Scanner) : Except Failure (Scanner × Bool) := do
  -- Candidates go stale before collections are closed, so that a key that is needed is missed.
  let s ← (toNextToken (s.cursor.rest.length + 1) s).dropStale
  let s := s.unwindTo (Int.ofNat s.cursor.column)
  if s.cursor.rest.isEmpty then
    let s ← (s.unwindTo (-1)).dropCandidate
    return (s, true)
  else return (← s.token, false)

/-- The scanner at the end of the text. -/
def finish : Nat → Scanner → Except Failure Scanner
  | 0, _ => .error .malformed
  | fuel + 1, s => do
    let (s, done) ← s.step
    if done then return s else finish fuel s

end Scanner

/-- The tokens of a text. -/
def tokens (text : List Char) : Except Failure (List Token) :=
  if text.all isAllowed then do
    let start : Cursor := { rest := text }
    let start := if start.peek = '\ufeff' then start.next else start
    let s ← Scanner.finish (text.length + 2) { cursor := start }
    return s.tokens.toList
  else .error .malformed

end ImportPolicy.Yaml
