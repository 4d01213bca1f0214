import ImportPolicy.Script.Grammar.Members

/-! # Expressions

Only the extent of an expression and the calls in it matter, so operators are not ranked: an
expression is a row of operands with operators between them.

* `Context.operand` — what operators stand between.
* `Context.suffix` — members, subscripts, calls and the like after an operand.
* `Context.unary`, `Context.assignment`, `Context.expression` — the levels above. -/

namespace ImportPolicy.Script.Context

open ImportPolicy.Script.Parser

variable (ctx : Context)

/-! ## Lists in parentheses -/

/-- An argument or an item in parentheses. -/
def argument : Parser := look fun input =>
  match next input with
  | '.' :: '.' :: '.' :: _ => tree .spread (mark "..." >> ctx.value)
  | _ => ctx.value

/-- The arguments of a call with their parentheses. -/
def arguments : Parser := mark "(" >> ctx.separated ctx.argument >> close ")"

/-- An item in parentheses that may turn out to be a parameter of an arrow function: a type and a
    default may follow it. -/
def coveredItem : Parser :=
  ctx.argument >>
    if ctx.typed then
      opt (given marksOptional (mark "?")) >> opt ctx.typeMark >> opt (mark "=" >> ctx.value)
    else done

/-- Items in parentheses. -/
def covered : Parser :=
  tree .parenthesized (mark "(" >> ctx.separated ctx.coveredItem >> close ")")

/-- Whether an arrow is ahead. -/
def arrowAhead (input : List Char) : Bool := startsWith "=>" (next input)

/-- The result type and the body of an arrow function whose parameters have been read. Between the
    marks of a conditional expression a result type counts only if the second mark still
    follows. -/
def typedArrow (consequent : Bool) : Parser :=
  ctx.typeMark >> ctx.arrowBody consequent >>
    if consequent then guard fun s => startsWith ":" (next s) else done

/-- Items in parentheses with what makes them the parameters of an arrow function, if they are
    followed by it. -/
def coveredArrow (consequent : Bool) : Parser :=
  ctx.covered >> look fun input =>
    if arrowAhead input then ctx.arrowBody consequent
    -- The colon may also belong to a conditional expression around the parentheses.
    else if ctx.typed && startsWith ":" (next input) then opt (ctx.typedArrow consequent)
    else done

/-- Items in parentheses, or an arrow function. -/
def parenthesized (consequent : Bool) : Parser := tree .arrow (ctx.coveredArrow consequent)

/-- An arrow function with type parameters. -/
def genericArrow (consequent : Bool) : Parser :=
  tree .arrow
    (ctx.typeParameters >> ctx.covered >>
      (ctx.arrowBody consequent <|> ctx.typedArrow consequent))

/-- An arrow function with one parameter without parentheses. -/
def nameArrow (consequent : Bool) : Parser :=
  tree .arrow (identifier >> guard arrowAhead >> ctx.arrowBody consequent)

/-- An asynchronous arrow function from its first word on, or a call of something with that name. -/
def asyncArrow (consequent : Bool) : Parser :=
  tree .arrow
    (keyword "async" >>
      look fun input =>
        match next input with
        | '(' :: _ => ctx.coveredArrow consequent
        | '<' :: _ => ctx.whenTyped (ctx.genericArrow consequent)
        | _ => ctx.nameArrow consequent)

/-! ## Templates -/

/-- A template literal. -/
def template : Parser :=
  tree .template
    (mark "\x60" >>
      ctx.many (lexeme .literal (templateTextLength false) <|>
        bundle .substitution (exact "$\x7b" >> ctx.rule .expression >> close "\x7d")) >>
      exact "\x60")

/-! ## Suffixes -/

/-- Whether an optional chaining mark starts a text, and not a conditional with a number. -/
def startsChaining : List Char → Bool
  | '?' :: '.' :: c :: _ => !c.isDigit
  | '?' :: '.' :: [] => true
  | _ => false

/-- A member after its point. -/
def memberName : Parser := look fun input =>
  match next input with
  | '#' :: _ => privateName
  | _ => word .literal

/-- A subscript in brackets. -/
def subscript : Parser := mark "[" >> ctx.rule .expression >> close "]"

/-- What follows an optional chaining mark. -/
def chained (input : List Char) : Growth :=
  let chaining := operatorTrivia >> exact "?."
  match next (input.drop 2) with
  | '(' :: _ => growCall (chaining >> trivia) (ctx.rule .arguments)
  | '[' :: _ => growGroup .access (chaining >> ctx.subscript)
  | '\x60' :: _ => growGroup .tagged (chaining >> ctx.rule .template)
  -- Only a call can follow type arguments here.
  | '<' :: _ => growCall (chaining >> ctx.typeArguments >> trivia) (ctx.rule .arguments)
  | _ => growGroup .access (chaining >> memberName)

/-- Whether type arguments that were read end an expression by themselves, because what follows
    continues none that a comparison could have. -/
def endsInstantiation (input : List Char) : Bool :=
  let ahead := nextOperator input
  ahead.isEmpty || breaksLine input || startsWithOneOf ")],;:\x7d.?=|&!*" ahead

/-- Type arguments after an operand, with the arguments of a call, a template, or nothing. -/
def instantiation : Growth :=
  Growth.orElse (growCall (operatorTrivia >> ctx.typeArguments >> trivia) (ctx.rule .arguments))
    (growGroup .access
      (operatorTrivia >> ctx.typeArguments >> look fun input =>
        match next input with
        | '\x60' :: _ => ctx.rule .template
        | _ => guard endsInstantiation))

/-- Whether the mark that asserts a value to be present starts a text. -/
def startsPresence : List Char → Bool
  | '!' :: '=' :: _ => false
  | '!' :: _ => true
  | _ => false

/-- A member or a subscript after an operand; these also stand in the target of `new`. -/
def accessStep : Growth := growLook fun input =>
  let ahead := nextOperator input
  match ahead with
  -- Two points start a spread and follow no operand.
  | '.' :: '.' :: _ => growNone
  | '.' :: _ => growGroup .access (operatorTrivia >> exact "." >> memberName)
  | '[' :: _ => growGroup .access (operatorTrivia >> ctx.subscript)
  | '\x60' :: _ => growGroup .tagged (operatorTrivia >> ctx.rule .template)
  | '!' :: _ =>
    if ctx.typed && startsPresence ahead && !breaksLine input then
      growGroup .operation (operatorTrivia >> exact "!")
    else growNone
  | _ => growNone

/-- What may follow an operand without an operator between. -/
def suffix : Growth := growLook fun input =>
  let ahead := nextOperator input
  match ahead with
  | '(' :: _ => growCall operatorTrivia (ctx.rule .arguments)
  | '?' :: _ => if startsChaining ahead then ctx.chained ahead else growNone
  | '<' :: _ => if ctx.typed then ctx.instantiation else growNone
  | '+' :: '+' :: _ =>
    if breaksLine input then growNone else growGroup .operation (operatorTrivia >> exact "++")
  | '-' :: '-' :: _ =>
    if breaksLine input then growNone else growGroup .operation (operatorTrivia >> exact "--")
  | _ => ctx.accessStep

/-! ## Operands -/

/-- A new object: the word, the class without calls, and the arguments if there are any. -/
def newObject : Parser :=
  tree .newObject
    (keyword "new" >> look fun input =>
      match next input with
      -- The word with a point is a value and makes no object.
      | '.' :: _ => mark "." >> word .literal
      | _ =>
        chain ctx.limit .access (ctx.rule (.operand false)) ctx.accessStep >>
          ctx.optTyped (ctx.typeArguments >> guard fun s =>
            startsWith "(" (next s) || endsInstantiation s) >>
          opt (ctx.rule .arguments))

/-- The word `yield` with its operand, which may be missing. -/
def yielded (consequent : Bool) : Parser :=
  tree .operation
    (keyword "yield" >> opt (mark "*") >>
      opt (given (fun s => !breaksLine s && !startsWithOneOf ")],;:\x7d" (next s))
        (ctx.rule (.assignment consequent))))

/-- The words that are operators before an operand. -/
def prefixWords : List String := ["typeof", "void", "delete", "await"]

/-- The words that are values of their own. -/
def valueWords : List String := ["this", "super", "null", "true", "false", "undefined"]

/-- The words that start no operand. -/
def reservedWords : List String :=
  ["break", "case", "catch", "const", "continue", "debugger", "default", "do", "else", "extends",
    "finally", "for", "if", "in", "instanceof", "return", "switch", "throw", "try", "var", "while",
    "with"]

/-- An operand that starts with a name. -/
def nameOperand (consequent : Bool) (input : List Char) : Parser :=
  let ahead := next input
  if arrowAhead (afterWord ahead) then ctx.nameArrow consequent
  else if isWord "function" ahead then ctx.function
  else if isWord "class" ahead then ctx.classDefinition
  else if isWord "new" ahead then ctx.newObject
  -- What follows is a call or a member, which comes as a suffix.
  else if isWord "import" ahead then keyword "import"
  else if isWord "yield" ahead then ctx.yielded consequent
  else if isWord "async" ahead then
    if wordFollows "function" ahead then ctx.function
    else if startsWithOneOf "(<" (next (afterWord ahead)) || nameFollows ahead then
      ctx.asyncArrow consequent <|> identifier
    else identifier
  else if valueWords.any (isWord · ahead) then word .literal
  else if reservedWords.any (isWord · ahead) then fail
  else identifier

/-- A type in angle brackets before an operand. -/
def assertion (consequent : Bool) : Parser :=
  tree .operation (ctx.typeArguments >> ctx.rule (.unary consequent))

/-- An operand: a literal, a name, or something in brackets. -/
def operand (consequent : Bool) : Parser := look fun input =>
  let ahead := next input
  match ahead with
  | '(' :: _ => ctx.parenthesized consequent
  | '[' :: _ => ctx.rule .array
  | '\x7b' :: _ => ctx.rule .object
  | '\x22' :: _ => Parser.string
  | '\x27' :: _ => Parser.string
  | '\x60' :: _ => ctx.rule .template
  | '/' :: _ => trivia >> lexeme .literal regexLength
  | '#' :: _ => privateName
  | '@' :: _ => tree .classDefinition (ctx.many (ctx.rule .decorator) >> ctx.classDefinition)
  -- Type parameters are tried first, since an element could start the same way.
  | '<' :: _ =>
    ctx.whenTyped (ctx.genericArrow consequent) <|>
      if ctx.markup then ctx.rule .element else ctx.assertion consequent
  | _ =>
    if 0 < numberLength ahead then trivia >> lexeme .literal numberLength
    else if startsName ahead then ctx.nameOperand consequent input
    else fail

/-- An operand with the operators before it and all that follows it directly. -/
def unary (consequent : Bool) : Parser := look fun input =>
  let ahead := next input
  let again := ctx.rule (.unary consequent)
  let plain := chain ctx.limit .operation (ctx.rule (.operand consequent)) ctx.suffix
  match ahead with
  | '+' :: '+' :: _ => tree .operation (mark "++" >> again)
  | '-' :: '-' :: _ => tree .operation (mark "--" >> again)
  | '+' :: _ => tree .operation (mark "+" >> again)
  | '-' :: _ => tree .operation (mark "-" >> again)
  | '!' :: _ => tree .operation (mark "!" >> again)
  | '~' :: _ => tree .operation (mark "~" >> again)
  | _ =>
    -- Before an arrow such a word is the name of a parameter.
    if prefixWords.any (isWord · ahead) && !arrowAhead (afterWord ahead) then
      tree .operation (word .mark >> again)
    else plain

/-! ## Operators -/

/-- The operators between operands that are marks, longer ones before their beginnings. -/
def operatorMarks : List String :=
  [">>>=", "===", "!==", "**=", "<<=", ">>=", ">>>", "&&=", "||=", "??=", "==", "!=", "<=", ">=",
    "&&", "||", "??", "**", "<<", ">>", "+=", "-=", "*=", "/=", "%=", "&=", "|=", "^=", "<", ">",
    "+", "-", "*", "/", "%", "&", "|", "^", "="]

/-- The length of the operator at the front of a text. An arrow, a step up or down and an optional
    member are no operators between operands. -/
def operatorLength (input : List Char) : Nat :=
  if startsWith "=>" input || startsWith "++" input || startsWith "--" input then 0
  else if isWord "in" input then 2
  else if isWord "instanceof" input then 10
  else
    match operatorMarks.find? (startsWith · input) with
    | some operator => operator.length
    | none => 0

/-- Whether the mark of a conditional expression starts a text. -/
def startsConditional (input : List Char) : Bool :=
  startsWith "?" input && !startsChaining input && !startsWith "??" input

/-- An operator and what follows it in the row of operands. -/
def operation (consequent : Bool) : Parser := look fun input =>
  let ahead := nextOperator input
  if 0 < operatorLength ahead then
    operatorTrivia >> lexeme .mark operatorLength >> ctx.rule (.unary consequent)
  -- A question mark behind a parameter says that it is optional.
  else if startsConditional ahead && !(ctx.typed && marksOptional input) then
    operatorTrivia >> exact "?" >> ctx.rule (.assignment true) >> mark ":" >>
      ctx.rule (.unary consequent)
  else if ctx.typed && !breaksLine input && (isWord "as" ahead || isWord "satisfies" ahead) then
    operatorTrivia >> lexeme .mark wordLength >>
      (keyword "const" <|> ctx.rule .typeExpression)
  else fail

/-- An expression without commas at its top. -/
def assignment (consequent : Bool) : Parser :=
  tree .operation (ctx.rule (.unary consequent) >> ctx.many (ctx.operation consequent))

/-- An expression, in which commas may stand. -/
def expression : Parser := tree .operation (ctx.value >> ctx.many (mark "," >> ctx.value))

/-- A decorator: a name with its qualifiers and perhaps arguments, or an expression in
    parentheses. -/
def decorator : Parser :=
  tree .decorator
    (mark "@" >> look fun input =>
      match next input with
      | '(' :: _ => ctx.covered
      | _ =>
        let qualified := chain ctx.limit .access identifier (growLook fun s =>
          match nextOperator s with
          | '.' :: _ => growGroup .access (operatorTrivia >> exact "." >> memberName)
          | _ => growNone)
        chain 1 .access qualified (growLook fun s =>
          match nextOperator s with
          | '(' :: _ => growCall operatorTrivia (ctx.rule .arguments)
          | '<' :: _ => if ctx.typed then ctx.instantiation else growNone
          | _ => growNone))

end ImportPolicy.Script.Context
