import ImportPolicy.Language
import ImportPolicy.Script.Parser

/-! # What grammar rules share

The rules of the grammar call one another without end. A rule is therefore written over a context,
which hands it the parsers of all rules; `Script/Grammar` ties the knot.

* `Rule` — the rules that others may call.
* `Context` — the dialect, a bound on repetitions, and the parsers of the rules. -/

namespace ImportPolicy.Script

/-- A rule of the grammar. The flag tells whether the parsed expression stands between the marks
    of a conditional expression, where a colon ends it. -/
inductive Rule where
  | statement
  | expression
  | assignment (consequent : Bool)
  | unary (consequent : Bool)
  | operand (consequent : Bool)
  | arguments
  | array
  | object
  | objectType
  | block
  | classBody
  | decorator
  | element
  | parameters
  | template
  | typeExpression
  | typeOperand
  deriving DecidableEq

/-- What the rules are written over. -/
structure Context where
  typed : Bool
  markup : Bool
  limit : Nat
  rule : Rule → Parser

namespace Context

open ImportPolicy.Script.Parser

variable (ctx : Context)

/-- A parser as often as it reads. -/
def many (p : Parser) : Parser := p.many ctx.limit

/-- Items with commas between them and perhaps after the last. -/
def separated (p : Parser) : Parser := opt (p >> ctx.many (mark "," >> p) >> opt (mark ","))

/-- A parser of the typed dialects only. -/
def whenTyped (p : Parser) : Parser := if ctx.typed then p else fail

/-- A part that only the typed dialects have and that may be missing. -/
def optTyped (p : Parser) : Parser := if ctx.typed then opt p else done

/-- An expression without commas at its top. -/
def value : Parser := ctx.rule (.assignment false)

/-- The type after a colon. -/
def typeMark : Parser := mark ":" >> ctx.rule .typeExpression

/-- The body of an arrow function after its arrow. -/
def arrowBody (consequent : Bool) : Parser :=
  mark "=>" >> look fun input =>
    match next input with
    | '\x7b' :: _ => ctx.rule .block
    | _ => ctx.rule (.assignment consequent)

end Context

/-! ## Looking ahead -/

/-- Whether a name starts a text. -/
def startsName (input : List Char) : Bool := 0 < wordLength input

/-- The text after the name at its front. -/
def afterWord (input : List Char) : List Char := input.drop (wordLength input)

/-- Whether a name follows the one at the front on the same line. -/
def nameFollows (input : List Char) : Bool :=
  startsName (next (afterWord input)) && !breaksLine (afterWord input)

/-- Whether a word follows the name at the front on the same line. -/
def wordFollows (word : String) (input : List Char) : Bool :=
  isWord word (next (afterWord input)) && !breaksLine (afterWord input)

/-- Whether the first character of a text is one of some. -/
def startsWithOneOf (chars : String) (input : List Char) : Bool :=
  match input with
  | c :: _ => chars.toList.contains c
  | [] => false

/-- Whether a question mark ahead marks something as optional: no operand follows it. -/
def marksOptional (input : List Char) : Bool :=
  match next input with
  | '?' :: rest => startsWithOneOf ":,)=" (next rest)
  | _ => false

/-- An optional semicolon. -/
def Parser.semicolon : Parser := Parser.opt (Parser.mark ";")

end ImportPolicy.Script
