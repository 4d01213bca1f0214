import ImportPolicy.Script.Grammar.Markup
import ImportPolicy.Script.Grammar.Statements

/-! # The grammar of scripts

The rules of the grammar with the knot tied, and the parser of whole sources.

* `Grammar.rule` — the parser of a rule, with a bound on the depth of calls.
* `Script.parse` — the trees of a source.
* `textOf_parse` — the trees of a source are its text. -/

namespace ImportPolicy.Script

namespace Grammar

/-- The parser of a rule over a context. -/
def body (ctx : Context) : Rule → Parser
  | .statement => ctx.statement
  | .expression => ctx.expression
  | .assignment consequent => ctx.assignment consequent
  | .unary consequent => ctx.unary consequent
  | .operand consequent => ctx.operand consequent
  | .arguments => ctx.arguments
  | .array => ctx.array
  | .object => ctx.object
  | .objectType => ctx.objectType
  | .block => ctx.block
  | .classBody => ctx.classBody
  | .decorator => ctx.decorator
  | .element => ctx.element
  | .parameters => ctx.parameters
  | .template => ctx.template
  | .typeExpression => ctx.typeExpression
  | .typeOperand => ctx.typeOperand

/-- The parser of a rule in which calls of rules nest at most `depth` deep. -/
def rule (language : Language) : (depth : Nat) → Rule → (input : List Char) →
    Option (Parsed input)
  | 0, _, _ => none
  | depth + 1, r, input =>
    body ⟨language.isTyped, language.hasMarkup, depth, fun r input => rule language depth r input⟩
      r input

/-- The context of a source of some length. Between two characters rules nest less than sixteen
    deep, so the bound is never met. -/
def context (language : Language) (length : Nat) : Context :=
  ⟨language.isTyped, language.hasMarkup, length + 1, rule language (16 * (length + 1))⟩

/-- A line that names an interpreter, at the start of a source. -/
def interpreterLine : Parser :=
  Parser.trivia >> Parser.given (startsWith "#!")
    (Parser.lexeme .literal fun input => (input.takeWhile (· ≠ '\n')).length)

/-- A whole source. -/
def source (ctx : Context) : Parser :=
  Parser.opt interpreterLine >> ctx.many (ctx.rule .statement <|> Context.stray) >> Parser.trivia

end Grammar

/-- The trees of a source. What no rule reads is kept as a leaf at the end. -/
def parse (language : Language) (input : List Char) : List Node :=
  match Grammar.source (Grammar.context language input.length) input with
  | some a => if a.rest.isEmpty then a.trees else a.trees ++ [.leaf ⟨.literal, a.rest⟩]
  | none => [.leaf ⟨.literal, input⟩]

/-- The trees of a source hold each of its characters, in order. -/
theorem textOf_parse (language : Language) (input : List Char) :
    textOf (parse language input) = input := by
  unfold parse
  split
  · next a _ =>
    have h := a.lossless
    split
    · next he => simpa [List.isEmpty_iff.1 he] using h
    · simpa [Node.text] using h
  · simp [Node.text]

end ImportPolicy.Script
