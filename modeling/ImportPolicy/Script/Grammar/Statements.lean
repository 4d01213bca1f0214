import ImportPolicy.Script.Grammar.Expressions

/-! # Statements

* `Context.importStatement`, `Context.exportStatement` — the statements that name other modules.
* `Context.statement` — a statement of any kind.
* `Context.statements` — a row of statements; text that starts none is passed over token by token.
-/

namespace ImportPolicy.Script.Context

open ImportPolicy.Script.Parser

variable (ctx : Context)

/-! ## Imports and exports -/

/-- A string as the name of an imported or exported thing, not as a source. -/
def stringName : Parser := trivia >> lexeme .literal fun input =>
  match scanString input with
  | some (s, _) => s.text.length
  | none => 0

/-- Names in braces, each perhaps with another after `as`. -/
def bindingList : Parser :=
  mark "\x7b" >> ctx.many (mark "," <|> word .literal <|> stringName) >> close "\x7d"

/-- The word `from` and the source. -/
def fromSource : Parser := keyword "from" >> Parser.string

/-- Whether the word `from` and a string are ahead. -/
def sourceAhead (input : List Char) : Bool :=
  let ahead := next input
  isWord "from" ahead && startsWithOneOf "\"'" (next (afterWord ahead))

/-- The attributes after a source. -/
def importAttributes : Parser := look fun input =>
  let ahead := next input
  if (isWord "with" ahead || isWord "assert" ahead) && startsWith "\x7b" (next (afterWord ahead))
  then word .mark >> ctx.rule .object
  else done

/-- The names that an import binds, before the word `from`. -/
def importBindings : Parser :=
  ctx.many
    (mark "," <|> mark "*" <|> ctx.bindingList <|>
      given (fun s => !sourceAhead s) (word .literal))

/-- An import statement. Only one with a source, and not one that binds the result of a call,
    names a module. -/
def importStatement : Parser :=
  sourced .importing
    (keyword "import" >>
      (Parser.string <|> ctx.importBindings >> fromSource) >>
      ctx.importAttributes >> semicolon) <|>
  unsourced .importing
    (keyword "import" >> ctx.importBindings >> mark "=" >>
      (keyword "require" >> mark "(" >> stringName >> close ")" <|>
        word .literal >> ctx.many (mark "." >> word .literal)) >>
      semicolon)

/-- What is exported under other names, with the source if there is one. A line that breaks before
    the word `from` ends the statement after a list of names. -/
def exportedNames : Parser :=
  mark "*" >> opt (keyword "as" >> (word .literal <|> stringName)) >> fromSource <|>
  ctx.bindingList >> opt (given (fun s => sourceAhead s && !breaksLine s) fromSource)

/-- Whether a list of exported types is ahead. -/
def exportedTypesAhead (input : List Char) : Bool :=
  let ahead := next input
  isWord "type" ahead && startsWithOneOf "\x7b*" (next (afterWord ahead))

/-- What follows the words `export default`: a declaration without a name perhaps, or an
    expression. -/
def exportedDefault : Parser := look fun input =>
  let ahead := next input
  let isClass := isWord "class" ahead || (isWord "abstract" ahead && wordFollows "class" ahead)
  if isWord "function" ahead || (isWord "async" ahead && wordFollows "function" ahead) then
    ctx.function
  else if isClass || (ctx.typed && isWord "interface" ahead && nameFollows ahead) then
    ctx.rule .statement
  else ctx.rule .expression >> semicolon

/-- An export statement. -/
def exportStatement : Parser := look fun input =>
  let ahead := next (afterWord (next input))
  if startsWithOneOf "*\x7b" ahead || (ctx.typed && exportedTypesAhead ahead) then
    sourced .exporting
      (keyword "export" >> opt (given exportedTypesAhead (keyword "type")) >> ctx.exportedNames >>
        ctx.importAttributes >> semicolon)
  else
    unsourced .exporting
      (keyword "export" >>
        -- None of these names a module itself, but a declaration may hold calls.
        if isWord "default" ahead then keyword "default" >> ctx.exportedDefault
        else if startsWith "=" ahead then mark "=" >> ctx.rule .expression >> semicolon
        else if isWord "as" ahead then
          keyword "as" >> keyword "namespace" >> word .literal >> semicolon
        else ctx.rule .statement)

/-! ## Declarations -/

/-- A declared variable with its type and value. -/
def declarator : Parser :=
  ctx.bindingTarget >> ctx.optTyped (mark "!") >> ctx.optTyped ctx.typeMark >>
    opt (mark "=" >> ctx.value)

/-- Declared variables after the word that opens them. -/
def declarators : Parser := ctx.declarator >> ctx.many (mark "," >> ctx.declarator)

/-- Whether a declaration of variables is ahead. -/
def variablesAhead (input : List Char) : Bool :=
  let ahead := next input
  let after := next (afterWord ahead)
  let binds := startsName after || startsWithOneOf "[\x7b" after
  isWord "var" ahead || isWord "const" ahead || (isWord "let" ahead && binds && !isWord "in" after)
    || (isWord "using" ahead && nameFollows ahead && !wordFollows "of" ahead &&
      !wordFollows "in" ahead)

/-- A declaration of variables. -/
def variableDeclaration : Parser := word .mark >> ctx.declarators

/-- A member of an enumeration. -/
def enumMember : Parser := tree .member (ctx.memberKey >> opt (mark "=" >> ctx.value))

/-- An enumeration from the word `enum` on. -/
def enumeration : Parser :=
  keyword "enum" >> word .literal >> mark "\x7b" >> ctx.separated ctx.enumMember >> close "\x7d"

/-- A namespace or a module from its word on. -/
def namespaceDeclaration : Parser :=
  word .mark >> (stringName <|> word .literal >> ctx.many (mark "." >> word .literal)) >>
    look fun input =>
      match next input with
      | '\x7b' :: _ => ctx.rule .block
      | _ => semicolon

/-- An interface. -/
def interface : Parser :=
  keyword "interface" >> word .literal >> opt ctx.typeParameters >>
    opt (keyword "extends" >> ctx.separated (ctx.rule .typeExpression)) >> ctx.rule .objectType

/-- A declared type. -/
def typeAlias : Parser :=
  keyword "type" >> word .literal >> opt ctx.typeParameters >> mark "=" >>
    ctx.rule .typeExpression >> semicolon

/-- The words that may follow `declare`. -/
def declaredWords : List String :=
  ["abstract", "async", "class", "const", "enum", "export", "function", "global", "import",
    "interface", "let", "module", "namespace", "type", "var"]

/-- A declaration that only the typed dialects have. -/
def typedDeclaration (input : List Char) : Parser :=
  let ahead := next input
  let after := next (afterWord ahead)
  let quoted := startsWithOneOf "\"'" after
  if isWord "interface" ahead && nameFollows ahead then ctx.interface
  else if isWord "type" ahead && nameFollows ahead then ctx.typeAlias
  else if isWord "enum" ahead then ctx.enumeration
  else if isWord "const" ahead && wordFollows "enum" ahead then keyword "const" >> ctx.enumeration
  else if (isWord "namespace" ahead && nameFollows ahead) ||
      (isWord "module" ahead && (nameFollows ahead || quoted)) then ctx.namespaceDeclaration
  else if isWord "global" ahead && startsWith "\x7b" after then
    keyword "global" >> ctx.rule .block
  else if isWord "abstract" ahead && wordFollows "class" ahead then
    keyword "abstract" >> ctx.classDefinition
  else if isWord "declare" ahead && nameFollows ahead && declaredWords.any (isWord · after) then
    keyword "declare" >> ctx.rule .statement
  else fail

/-! ## Control -/

/-- An expression in parentheses after a word of control. -/
def condition : Parser := mark "(" >> ctx.rule .expression >> close ")"

/-- What stands in the parentheses of a loop over a range. -/
def loopHeader : Parser :=
  (look fun input =>
    -- Nothing needs to stand before the first semicolon.
    if startsWith ";" (next input) then done
    else if variablesAhead input then ctx.variableDeclaration
    else if isWord "await" (next input) && variablesAhead (afterWord (next input)) then
      keyword "await" >> ctx.variableDeclaration
    else ctx.rule .expression) >>
  look fun input =>
    let ahead := next input
    if isWord "of" ahead || isWord "in" ahead then word .mark >> ctx.rule .expression
    else if startsWith ")" ahead then done
    else mark ";" >> opt (ctx.rule .expression) >> mark ";" >> opt (ctx.rule .expression)

/-- A clause of a switch up to its colon. -/
def caseMark : Parser := look fun input =>
  let ahead := next input
  if isWord "case" ahead then keyword "case" >> ctx.rule .expression >> mark ":"
  else if isWord "default" ahead && startsWith ":" (next (afterWord ahead)) then
    keyword "default" >> mark ":"
  else fail

/-- A token that starts no statement. -/
def stray : Parser := trivia >> (lexeme .mark wordLength <|> lexeme .mark fun input =>
  match input with
  | [] => 0
  | _ => 1)

/-- A row of statements up to a closing brace. -/
def statements : Parser :=
  ctx.many (ctx.rule .statement <|> given (fun s => !startsWith "\x7d" (next s)) stray)

/-- Statements in braces. -/
def block : Parser := tree .block (mark "\x7b" >> ctx.statements >> close "\x7d")

/-- The clauses of a switch in braces. -/
def clauses : Parser :=
  tree .block
    (mark "\x7b" >>
      ctx.many (ctx.caseMark <|> ctx.rule .statement <|>
        given (fun s => !startsWith "\x7d" (next s)) stray) >>
      close "\x7d")

/-- The handlers of a guarded block. -/
def handlers : Parser :=
  opt (keyword "catch" >>
    opt (mark "(" >> ctx.bindingTarget >> ctx.optTyped ctx.typeMark >> close ")") >>
    ctx.rule .block) >>
  opt (keyword "finally" >> ctx.rule .block)

/-- An expression that may be missing after a word: none is there if the line breaks. -/
def optionalValue : Parser :=
  opt (given (fun s => !breaksLine s && !startsWithOneOf ";\x7d" (next s)) (ctx.rule .expression))

/-- A label that may be missing after a word. -/
def optionalLabel : Parser := opt (given (fun s => !breaksLine s) (word .literal))

/-- A statement that starts with a word of control. -/
def control (input : List Char) : Parser :=
  let ahead := next input
  if isWord "if" ahead then
    keyword "if" >> ctx.condition >> ctx.rule .statement >>
      opt (keyword "else" >> ctx.rule .statement)
  else if isWord "for" ahead then
    keyword "for" >> opt (keyword "await") >> mark "(" >> ctx.loopHeader >> close ")" >>
      ctx.rule .statement
  else if isWord "while" ahead then keyword "while" >> ctx.condition >> ctx.rule .statement
  else if isWord "do" ahead then
    keyword "do" >> ctx.rule .statement >> keyword "while" >> ctx.condition >> semicolon
  else if isWord "with" ahead then keyword "with" >> ctx.condition >> ctx.rule .statement
  else if isWord "switch" ahead then keyword "switch" >> ctx.condition >> ctx.clauses
  else if isWord "try" ahead then keyword "try" >> ctx.rule .block >> ctx.handlers
  else if isWord "return" ahead then keyword "return" >> ctx.optionalValue >> semicolon
  else if isWord "throw" ahead then keyword "throw" >> ctx.rule .expression >> semicolon
  else if isWord "break" ahead then keyword "break" >> optionalLabel >> semicolon
  else if isWord "continue" ahead then keyword "continue" >> optionalLabel >> semicolon
  else if isWord "debugger" ahead then keyword "debugger" >> semicolon
  else fail

/-- Whether a label and its colon are ahead. -/
def labelAhead (input : List Char) : Bool :=
  let ahead := next input
  startsName ahead && startsWith ":" (next (afterWord ahead)) && !isWord "default" ahead

/-- A statement that starts with a name. -/
def nameStatement (input : List Char) : Parser :=
  let ahead := next input
  let after := next (afterWord ahead)
  let plain := ctx.rule .expression >> semicolon
  -- A label goes first: any name can be one.
  if labelAhead ahead then word .literal >> mark ":" >> ctx.rule .statement
  -- A call or a member of `import` is an expression.
  else if isWord "import" ahead && !startsWithOneOf "(." after then ctx.importStatement
  else if isWord "export" ahead then ctx.exportStatement
  else if isWord "function" ahead || (isWord "async" ahead && wordFollows "function" ahead) then
    ctx.function
  else if isWord "class" ahead then ctx.classDefinition
  else
    ctx.control input <|> ctx.whenTyped (ctx.typedDeclaration input) <|>
      if variablesAhead ahead then ctx.variableDeclaration >> semicolon
      else if isWord "await" ahead && isWord "using" after && variablesAhead after then
        keyword "await" >> ctx.variableDeclaration >> semicolon
      else plain

/-- A statement. -/
def statement : Parser := look fun input =>
  match next input with
  | '\x7b' :: _ => ctx.rule .block
  | ';' :: _ => mark ";"
  | '@' :: _ => ctx.rule .decorator
  | ahead =>
    tree .statement
      (if startsName ahead then ctx.nameStatement ahead else ctx.rule .expression >> semicolon)

end ImportPolicy.Script.Context
