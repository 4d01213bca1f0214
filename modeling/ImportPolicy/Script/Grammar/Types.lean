import ImportPolicy.Script.Grammar.Context

/-! # Types

The grammar of types in the typed dialects. Types matter because they end where expressions go on,
and because a computed member name and the subject of a type query are expressions.

* `Context.typeExpression` — a type, or a predicate over a parameter.
* `Context.typeParameters`, `Context.typeArguments` — lists in angle brackets.
* `Context.typeQuery` — the type of a value. -/

namespace ImportPolicy.Script.Context

open ImportPolicy.Script.Parser

variable (ctx : Context)

/-- Types in angle brackets. -/
def typeArguments : Parser :=
  tree .typeExpression
    (mark "<" >> ctx.separated (ctx.rule .typeExpression) >> mark ">")

/-- A declared type parameter with its modifiers, bound and default. -/
def typeParameter : Parser :=
  ctx.many (given (fun s => ["const", "in", "out"].any (isWord · (next s)) && nameFollows (next s))
    (word .mark)) >>
  word .literal >>
  opt (keyword "extends" >> ctx.rule .typeExpression) >>
  opt (mark "=" >> ctx.rule .typeExpression)

/-- Declared type parameters in angle brackets. -/
def typeParameters : Parser :=
  tree .typeExpression (mark "<" >> ctx.separated ctx.typeParameter >> mark ">")

/-- The type of a function. -/
def functionType : Parser :=
  opt ctx.typeParameters >> ctx.rule .parameters >> mark "=>" >> ctx.rule .typeExpression

/-- An element of a tuple with its label and marks. -/
def tupleElement : Parser :=
  opt (mark "...") >>
  opt (word .literal >> opt (mark "?") >> mark ":") >>
  ctx.rule .typeExpression >>
  opt (mark "?")

/-- A template literal whose substitutions are types. -/
def templateType : Parser :=
  tree .template
    (mark "\x60" >>
      ctx.many (lexeme .literal (templateTextLength false) <|>
        bundle .substitution (exact "$\x7b" >> ctx.rule .typeExpression >> close "\x7d")) >>
      exact "\x60")

/-- What may follow the subject of a type query or an imported module: members, subscripts,
    arguments and type arguments. -/
def queryStep : Growth := growLook fun input =>
  match nextOperator input with
  | '.' :: _ => growGroup .access (mark "." >> opt (exact "#") >> word .literal)
  | '(' :: _ => growCall operatorTrivia (ctx.rule .arguments)
  | '[' :: _ =>
    if breaksLine input then growNone
    else growGroup .access (mark "[" >> opt (ctx.rule .typeExpression) >> close "]")
  | '<' :: _ => growGroup .access ctx.typeArguments
  | _ => growNone

/-- The type of a value. -/
def typeQuery : Parser :=
  keyword "typeof" >> chain ctx.limit .access (keyword "import" <|> identifier) ctx.queryStep

/-- A name of a type with its qualifiers and arguments. -/
def typeName : Parser :=
  word .literal >> ctx.many (mark "." >> word .literal) >> opt ctx.typeArguments

/-- A type without operators around it. -/
def primaryType : Parser := look fun input =>
  let ahead := next input
  match ahead with
  | '(' :: _ =>
    tree .typeExpression
      (ctx.functionType <|> mark "(" >> ctx.rule .typeExpression >> close ")")
  | '<' :: _ => tree .typeExpression ctx.functionType
  | '[' :: _ => tree .typeExpression (mark "[" >> ctx.separated ctx.tupleElement >> close "]")
  | '\x7b' :: _ => ctx.rule .objectType
  | '\x22' :: _ => Parser.string
  | '\x27' :: _ => Parser.string
  | '\x60' :: _ => ctx.templateType
  | '-' :: _ => tree .typeExpression (mark "-" >> trivia >> lexeme .literal numberLength)
  | '?' :: _ => mark "?"
  | '*' :: _ => mark "*"
  | _ =>
    if 0 < numberLength ahead then trivia >> lexeme .literal numberLength
    else if isWord "typeof" ahead && !startsWithOneOf ",>)=|;&]\x7d:?" (next (afterWord ahead)) then
      tree .typeExpression ctx.typeQuery
    else if isWord "import" ahead then
      chain ctx.limit .access (keyword "import") ctx.queryStep
    -- Without parameters behind it the word is the name of a type.
    else if isWord "new" ahead then
      tree .typeExpression (keyword "new" >> ctx.functionType) <|> tree .typeExpression ctx.typeName
    else if isWord "abstract" ahead && wordFollows "new" ahead then
      tree .typeExpression (keyword "abstract" >> keyword "new" >> ctx.functionType)
    else tree .typeExpression ctx.typeName

/-- An array or an indexed type after its element type. -/
def indexStep : Growth := growLook fun input =>
  match nextOperator input with
  | '[' :: _ =>
    -- A bracket on the next line starts another member or statement.
    if breaksLine input then growNone
    else growGroup .typeExpression (mark "[" >> opt (ctx.rule .typeExpression) >> close "]")
  | _ => growNone

/-- The words that stand before a type as operators. -/
def typeOperators : List String := ["keyof", "unique", "readonly"]

/-- A type with the operators before and the indexes after it. -/
def typeOperand : Parser := look fun input =>
  let ahead := next input
  let after := next (afterWord ahead)
  let alone := after.isEmpty || startsWithOneOf ",>)=|;&]\x7d:?." after
  if typeOperators.any (isWord · ahead) && !alone then
    tree .typeExpression (word .mark >> ctx.rule .typeOperand)
  else if isWord "infer" ahead && startsName after then
    tree .typeExpression
      (keyword "infer" >> word .literal >>
        -- A bound that a question mark follows is the condition of a conditional type.
        opt (keyword "extends" >> ctx.rule .typeOperand >>
          guard fun s => !startsWith "?" (next s)))
  else chain ctx.limit .typeExpression ctx.primaryType ctx.indexStep

/-- Types between single marks; the mark may also stand before the first. -/
def joinedTypes (joint double : String) (p : Parser) : Parser :=
  let joint := given (fun s => !startsWith double (next s)) (mark joint)
  tree .typeExpression (opt joint >> p >> ctx.many (joint >> p))

/-- A union of intersections. -/
def unionType : Parser :=
  ctx.joinedTypes "|" "||" (ctx.joinedTypes "&" "&&" (ctx.rule .typeOperand))

/-- Whether a predicate over a parameter is ahead. -/
def predicateAhead (input : List Char) : Bool :=
  startsName input && wordFollows "is" input &&
    !startsWithOneOf ",>)=|;&]\x7d:?." (next (afterWord (next (afterWord input))))

/-- A type, or a predicate over a parameter. -/
def typeExpression : Parser := look fun input =>
  let ahead := next input
  if isWord "asserts" ahead && nameFollows ahead && !wordFollows "is" ahead then
    tree .typeExpression
      (keyword "asserts" >> word .literal >> opt (keyword "is" >> ctx.rule .typeExpression))
  else if predicateAhead ahead then
    tree .typeExpression (word .literal >> keyword "is" >> ctx.rule .typeExpression)
  else
    tree .typeExpression
      (ctx.unionType >>
        opt (keyword "extends" >> ctx.unionType >> mark "?" >> ctx.rule .typeExpression >>
          mark ":" >> ctx.rule .typeExpression))

end ImportPolicy.Script.Context
