import ImportPolicy.Script.Grammar.Context

/-! # Markup elements

Elements inside expressions. Between tags all text is taken as it is, and braces hold
expressions.

* `Context.element` — an element or a fragment. -/

namespace ImportPolicy.Script.Context

open ImportPolicy.Script.Parser

variable (ctx : Context)

/-- The length of a name of an element or an attribute: names with dashes. -/
def markupNameLength (input : List Char) : Nat :=
  match wordLength input with
  | 0 => 0
  | _ => (input.takeWhile fun c => isNameChar c || c = '-').length

/-- A name with its qualifiers. -/
def markupName : Parser :=
  trivia >> lexeme .literal markupNameLength >>
    ctx.many ((mark "." <|> mark ":") >> trivia >> lexeme .literal markupNameLength)

/-- A string in a tag: no character in it is escaped. -/
def markupStringLength : List Char → Nat
  | quote :: rest =>
    if quote = '\x22' ∨ quote = '\x27' then
      let inside := (rest.takeWhile (· ≠ quote)).length
      if (rest.drop inside).isEmpty then 0 else inside + 2
    else 0
  | [] => 0

/-- An expression in braces, which may be missing or spread. -/
def container : Parser :=
  bundle .substitution
    (exact "\x7b" >> opt (mark "...") >> opt (ctx.rule .expression) >> close "\x7d")

/-- The value of an attribute. -/
def attributeValue : Parser := look fun input =>
  match next input with
  | '\x7b' :: _ => trivia >> ctx.container
  | '<' :: _ => ctx.rule .element
  | _ => trivia >> lexeme .literal markupStringLength

/-- An attribute: a name with a value, or spread attributes in braces. -/
def markupAttribute : Parser := look fun input =>
  match next input with
  | '\x7b' :: _ => trivia >> ctx.container
  | _ => tree .attribute (ctx.markupName >> opt (mark "=" >> ctx.attributeValue))

/-- Something between two tags: text, an expression in braces, or an element. -/
def markupChild : Parser := look fun input =>
  match input with
  -- A slash behind the bracket closes the element around.
  | '<' :: rest => if startsWith "/" (next rest) then fail else ctx.rule .element
  | '\x7b' :: _ => ctx.container
  | _ => lexeme .literal fun s => (s.takeWhile fun c => c ≠ '<' && c ≠ '\x7b').length

/-- The content after an opening tag, and the closing tag. An element that is open at the end of
    the source ends there. -/
def markupContent : Parser :=
  ctx.many ctx.markupChild >>
    (exact "<" >> mark "/" >> opt ctx.markupName >> mark ">" <|> guard List.isEmpty)

/-- An element or a fragment. -/
def element : Parser :=
  tree .element
    (mark "<" >> look fun input =>
      match next input with
      | '>' :: _ => mark ">" >> ctx.markupContent
      | _ =>
        ctx.markupName >>
          ctx.optTyped (tree .typeExpression
            (mark "<" >> ctx.separated (ctx.rule .typeExpression) >> mark ">")) >>
          ctx.many ctx.markupAttribute >>
          (mark "/" >> mark ">" <|> mark ">" >> ctx.markupContent))

end ImportPolicy.Script.Context
