import ImportPolicy.Script.Grammar.Types

/-! # Functions, classes and objects

* `Context.parameters`, `Context.functionTail` — what follows the name of a function.
* `Context.classDefinition`, `Context.classBody` — what follows the word `class`.
* `Context.object`, `Context.array` — literals, which also serve as patterns: a default value may
  follow a name.
* `Context.objectType` — the members of a type. -/

namespace ImportPolicy.Script.Context

open ImportPolicy.Script.Parser

variable (ctx : Context)

/-! ## Names and keys -/

/-- What a variable or parameter binds: a name, or a pattern. -/
def bindingTarget : Parser := look fun input =>
  match next input with
  | '\x7b' :: _ => ctx.rule .object
  | '[' :: _ => ctx.rule .array
  | _ => identifier

/-- A name after a number sign. -/
def privateName : Parser := trivia >> given (startsWith "#") (lexeme .literal fun input =>
  match wordLength (input.drop 1) with
  | 0 => 0
  | n + 1 => n + 2)

/-- A computed key in brackets. An index signature has a type after its name. -/
def computedKey : Parser :=
  tree .member (mark "[" >> ctx.value >> ctx.optTyped ctx.typeMark >> close "]")

/-- The key of a member. -/
def memberKey : Parser := look fun input =>
  match next input with
  | '[' :: _ => ctx.computedKey
  | '\x22' :: _ => Parser.string
  | '\x27' :: _ => Parser.string
  | '#' :: _ => privateName
  | ahead =>
    if 0 < numberLength ahead then trivia >> lexeme .literal numberLength else word .literal

/-- The words that may stand before the key of a member. -/
def memberModifiers : List String :=
  ["static", "async", "get", "set", "public", "private", "protected", "readonly", "abstract",
    "override", "declare", "accessor"]

/-- Whether a modifier is ahead, and not a key that is spelled like one. -/
def modifierAhead (input : List Char) : Bool :=
  let ahead := next input
  let after := next (afterWord ahead)
  memberModifiers.any (isWord · ahead) && !after.isEmpty && !startsWithOneOf "(=;,\x7d:?!<" after

/-- The modifiers of a member, and the star of a generator. -/
def modifiers : Parser := ctx.many (given modifierAhead (word .mark)) >> opt (mark "*")

/-! ## Functions -/

/-- A parameter with its decorators, modifiers, type and default. -/
def parameter : Parser :=
  ctx.many (ctx.rule .decorator) >>
  ctx.many (given (fun s => modifierAhead s && !startsWithOneOf ")." (next (afterWord (next s))))
    (word .mark)) >>
  opt (mark "...") >>
  ctx.bindingTarget >>
  ctx.optTyped (mark "?") >>
  ctx.optTyped ctx.typeMark >>
  opt (mark "=" >> ctx.value)

/-- Parameters in parentheses. -/
def parameters : Parser :=
  tree .parameters (mark "(" >> ctx.separated ctx.parameter >> close ")")

/-- The parameters, the result type and the body of a function. The typed dialects also declare
    functions without a body. -/
def functionTail : Parser :=
  ctx.optTyped ctx.typeParameters >>
  ctx.rule .parameters >>
  ctx.optTyped ctx.typeMark >>
  look fun input =>
    match next input with
    | '\x7b' :: _ => ctx.rule .block
    | _ => semicolon

/-- A function from the word `function` on. -/
def function : Parser :=
  tree .function
    (opt (keyword "async") >> keyword "function" >> opt (mark "*") >>
      opt (word .identifier) >> ctx.functionTail)

/-! ## Classes -/

/-- A member of a class. -/
def classMember : Parser := look fun input =>
  let ahead := next input
  match ahead with
  | ';' :: _ => mark ";"
  | ',' :: _ => mark ","
  | '@' :: _ => ctx.rule .decorator
  | '\x7d' :: _ => fail
  | _ =>
    -- A block of statements, and not a member with that name.
    if isWord "static" ahead && startsWith "\x7b" (next (afterWord ahead)) then
      tree .member (keyword "static" >> ctx.rule .block)
    else
      tree .member
        (ctx.modifiers >> ctx.memberKey >> opt (mark "?" <|> mark "!") >>
          look fun rest =>
            -- A method has parameters; anything else is a field.
            if startsWithOneOf "(<" (next rest) then ctx.functionTail
            else ctx.optTyped ctx.typeMark >> opt (mark "=" >> ctx.value) >> semicolon)

/-- The members of a class in braces. -/
def classBody : Parser :=
  tree .classBody (mark "\x7b" >> ctx.many ctx.classMember >> close "\x7d")

/-- Whether the name of a class is ahead, and not the word that opens its heritage. -/
def classNameAhead (input : List Char) : Bool :=
  let ahead := next input
  startsName ahead && !isWord "extends" ahead &&
    !(isWord "implements" ahead && startsName (next (afterWord ahead)))

/-- A class from the word `class` on. -/
def classDefinition : Parser :=
  tree .classDefinition
    (keyword "class" >>
      opt (given classNameAhead (word .literal)) >>
      ctx.optTyped ctx.typeParameters >>
      opt (keyword "extends" >> ctx.rule (.unary false) >> ctx.optTyped ctx.typeArguments) >>
      ctx.optTyped (keyword "implements" >> ctx.separated (ctx.rule .typeExpression)) >>
      ctx.rule .classBody)

/-! ## Objects and arrays -/

/-- A property of an object: a spread, a method, or a key with a value or a default. -/
def property : Parser := look fun input =>
  match next input with
  | '.' :: '.' :: '.' :: _ => tree .spread (mark "..." >> ctx.value)
  | _ =>
    tree .member
      (ctx.modifiers >> ctx.memberKey >>
        look fun rest =>
          match next rest with
          | '(' :: _ => ctx.functionTail
          | '<' :: _ => ctx.functionTail
          | ':' :: _ => mark ":" >> ctx.value
          | '=' :: _ => mark "=" >> ctx.value
          | _ => done)

/-- An object literal or an object pattern. -/
def object : Parser :=
  tree .object (mark "\x7b" >> ctx.separated ctx.property >> close "\x7d")

/-- An item of an array: a comma, a spread or a value. -/
def item : Parser := look fun input =>
  match next input with
  | ',' :: _ => mark ","
  | ']' :: _ => fail
  | '.' :: '.' :: '.' :: _ => tree .spread (mark "..." >> ctx.value)
  | _ => ctx.value

/-- An array literal or an array pattern. -/
def array : Parser := tree .array (mark "[" >> ctx.many ctx.item >> close "]")

/-! ## Members of types -/

/-- The key of a mapped type in brackets. -/
def mappedKey : Parser :=
  tree .member
    (mark "[" >> word .literal >> keyword "in" >> ctx.rule .typeExpression >>
      opt (keyword "as" >> ctx.rule .typeExpression) >> close "]")

/-- Whether a mapped type's key is ahead. -/
def mappedAhead (input : List Char) : Bool :=
  match next input with
  | '[' :: rest => startsName (next rest) && isWord "in" (next (afterWord (next rest)))
  | _ => false

/-- A sign before a modifier or a question mark of a mapped type. -/
def mappedSign : Parser :=
  opt (given (fun s => startsWithOneOf "+-" (next s)) (mark "+" <|> mark "-"))

/-- A member of a type: a call or construct signature, a method, a property, an index signature or
    a mapped type. -/
def typeMember : Parser := look fun input =>
  let ahead := next input
  let signature := opt ctx.typeParameters >> ctx.rule .parameters >> opt ctx.typeMark
  match ahead with
  | ';' :: _ => mark ";"
  | ',' :: _ => mark ","
  | '\x7d' :: _ => fail
  | '(' :: _ => tree .member signature
  | '<' :: _ => tree .member signature
  | _ =>
    if isWord "new" ahead && startsWithOneOf "(<" (next (afterWord ahead)) then
      tree .member (keyword "new" >> signature)
    else
      tree .member
        (mappedSign >> ctx.modifiers >>
          (look fun rest => if mappedAhead rest then ctx.mappedKey else ctx.memberKey) >>
          mappedSign >> opt (mark "?") >>
          look fun rest =>
            if startsWithOneOf "(<" (next rest) then signature else opt ctx.typeMark)

/-- The members of a type in braces. -/
def objectType : Parser :=
  tree .typeExpression (mark "\x7b" >> ctx.many ctx.typeMember >> close "\x7d")

end ImportPolicy.Script.Context
