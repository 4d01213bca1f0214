import ImportPolicy.Script.Lexical

/-! # Parsers that lose nothing

A parser reads trees off the front of a text. Its result carries the proof that the trees and the
rest make up the text, so every parser built from the ones below keeps each character.

* `Parsed`, `Parser` — results and parsers.
* `Parser.andThen`, `Parser.orElse`, `Parser.many`, `Parser.look` — putting parsers together.
* `Parser.mark`, `Parser.keyword`, `Parser.identifier`, `Parser.string` — tokens.
* `Parser.tree`, `Parser.chain` — building nodes. -/

namespace ImportPolicy.Script

/-- Trees for the front of a text and the rest of it. -/
structure Parsed (input : List Char) where
  trees : List Node
  rest : List Char
  lossless : textOf trees ++ rest = input

/-- A reader of trees off the front of a text. -/
def Parser := (input : List Char) → Option (Parsed input)

namespace Parser

/-! ## Putting parsers together -/

/-- Reads nothing. -/
def done : Parser := fun input => some ⟨[], input, rfl⟩

/-- Never reads. -/
def fail : Parser := fun _ => none

/-- One parser after another. -/
def andThen (p q : Parser) : Parser := fun input =>
  match p input with
  | none => none
  | some a =>
    match q a.rest with
    | none => none
    | some b =>
      some ⟨a.trees ++ b.trees, b.rest, by
        rw [textOf_append, List.append_assoc, b.lossless, a.lossless]⟩

/-- The first of two parsers that reads. -/
def orElse (p q : Parser) : Parser := fun input =>
  match p input with
  | some a => some a
  | none => q input

instance : HAndThen Parser Parser Parser := ⟨fun p q => p.andThen (q ())⟩
instance : HOrElse Parser Parser Parser := ⟨fun p q => p.orElse (q ())⟩

/-- A parser that may read nothing. -/
def opt (p : Parser) : Parser := p.orElse done

/-- A parser chosen by the text ahead. -/
def look (choose : List Char → Parser) : Parser := fun input => choose input input

/-- A parser that reads only if a test of the text ahead holds. -/
def given (test : List Char → Bool) (p : Parser) : Parser := fun input =>
  if test input then p input else none

/-- Reads nothing if a test of the text ahead holds. -/
def guard (test : List Char → Bool) : Parser := given test done

/-- A parser as often as it reads, at most `limit` times. -/
def many (p : Parser) : (limit : Nat) → Parser
  | 0, input => some ⟨[], input, rfl⟩
  | limit + 1, input =>
    match p input with
    | none => some ⟨[], input, rfl⟩
    | some a =>
      match many p limit a.rest with
      | none => none
      | some b =>
        some ⟨a.trees ++ b.trees, b.rest, by
          rw [textOf_append, List.append_assoc, b.lossless, a.lossless]⟩

/-! ## Tokens -/

/-- The blanks and comments ahead. -/
def trivia : Parser := fun input =>
  let found := scanTrivia true .between [] input
  some ⟨found.1, found.2, by simp [found, text_scanTrivia]⟩

/-- The blanks and comments ahead of an operator. -/
def operatorTrivia : Parser := fun input =>
  let found := scanTrivia false .between [] input
  some ⟨found.1, found.2, by simp [found, text_scanTrivia]⟩

/-- A leaf of as many characters as a function of the text ahead says, but at least one. -/
def lexeme (kind : LeafKind) (length : List Char → Nat) : Parser := fun input =>
  match length input with
  | 0 => none
  | n + 1 =>
    some ⟨[.leaf ⟨kind, input.take (n + 1)⟩], input.drop (n + 1), by
      simp [Node.text, List.take_append_drop]⟩

/-- The given characters, right here. -/
def exact (text : String) : Parser :=
  lexeme .mark fun input => if Script.startsWith text input then text.length else 0

/-- The given mark. -/
def mark (text : String) : Parser := trivia >> exact text

/-- The given word as a keyword. -/
def keyword (word : String) : Parser :=
  trivia >> given (isWord word) (lexeme .mark wordLength)

/-- A name as a leaf of a kind. -/
def word (kind : LeafKind) : Parser := trivia >> lexeme kind wordLength

/-- An identifier. -/
def identifier : Parser := word .identifier

/-- A string literal. -/
def string : Parser :=
  trivia.andThen fun input =>
    match h : scanString input with
    | none => none
    | some found => some ⟨[.string found.1], found.2, by simp [Node.text, text_scanString h]⟩

/-- A closing mark; at the end of the text it may be missing. -/
def close (text : String) : Parser := mark text <|> guard fun input => (next input).isEmpty

/-! ## Nodes -/

/-- One group for all trees that a parser reads; a single tree stays as it is. -/
def bundle (kind : GroupKind) (p : Parser) : Parser := fun input =>
  match p input with
  | none => none
  | some a => some ⟨[Node.bundle kind a.trees], a.rest, by simp [a.lossless]⟩

/-- What a parser reads as one node. Blanks and comments ahead stay outside of it. -/
def tree (kind : GroupKind) (p : Parser) : Parser := trivia >> bundle kind p

/-- A declaration node whose source is the first string among its parts. -/
def sourced (kind : DeclarationKind) (p : Parser) : Parser :=
  trivia.andThen fun input =>
    match p input with
    | none => none
    | some a => some ⟨[Node.sourced kind a.trees], a.rest, by simp [a.lossless]⟩

/-- A declaration node without a source. -/
def unsourced (kind : DeclarationKind) (p : Parser) : Parser :=
  trivia.andThen fun input =>
    match p input with
    | none => none
    | some a =>
      some ⟨[.declaration kind [] none a.trees], a.rest, by simp [Node.text, a.lossless]⟩

/-! ## Chains -/

/-- A node that grew to the right, and the rest. -/
structure Grown (left : Node) (input : List Char) where
  node : Node
  rest : List Char
  lossless : node.text ++ rest = left.text ++ input

/-- A reader that takes a node and what follows it into a larger node. -/
abbrev Growth := (left : Node) → (input : List Char) → Option (Grown left input)

/-- Takes what a parser reads into a group with the node before it. -/
def growGroup (kind : GroupKind) (p : Parser) : Growth := fun left input =>
  match p input with
  | none => none
  | some a =>
    some ⟨.group kind (left :: a.trees), a.rest, by
      simp [Node.text, List.append_assoc, a.lossless]⟩

/-- Takes the arguments of a call, and what stands before them, into a call of the node. -/
def growCall (between arguments : Parser) : Growth := fun left input =>
  match between input with
  | none => none
  | some a =>
    match arguments a.rest with
    | none => none
    | some b =>
      some ⟨.call left a.trees b.trees, b.rest, by
        simp [Node.text, List.append_assoc, b.lossless, a.lossless]⟩

/-- The first of two growths that reads. -/
def Growth.orElse (f g : Growth) : Growth := fun left input =>
  match f left input with
  | some a => some a
  | none => g left input

/-- A growth chosen by the text ahead. -/
def growLook (choose : List Char → Growth) : Growth := fun left input => choose input left input

/-- No growth. -/
def growNone : Growth := fun _ _ => none

/-- A growth as often as it reads, at most `limit` times. -/
def growMany (step : Growth) : (limit : Nat) → (left : Node) → (input : List Char) →
    Grown left input
  | 0, left, input => ⟨left, input, rfl⟩
  | limit + 1, left, input =>
    match step left input with
    | none => ⟨left, input, rfl⟩
    | some a =>
      let b := growMany step limit a.node a.rest
      ⟨b.node, b.rest, by rw [b.lossless, a.lossless]⟩

/-- A node that a parser reads, grown as far as possible. -/
def chain (limit : Nat) (kind : GroupKind) (first : Parser) (step : Growth) : Parser :=
  trivia.andThen fun input =>
    match first input with
    | none => none
    | some a =>
      let b := growMany step limit (Node.bundle kind a.trees) a.rest
      some ⟨[b.node], b.rest, by simp [b.lossless, a.lossless]⟩

end Parser

end ImportPolicy.Script
