import ImportPolicy.Text.Basic

/-! # What tags and plain scalars mean

A tag says which kind of value a node holds. A plain scalar without a tag gets one from its text.

* `Meaning` — the kinds of value.
* `Meaning.ofTag` — the kind that a tag names.
* `Meaning.ofPlain` — the kind that the text of a plain scalar has. -/

namespace ImportPolicy.Yaml

/-- The kinds of value that a node may hold. -/
inductive Meaning where
  | null
  | truth
  | integer
  | float
  | timestamp
  | merge
  | default
  | text
  | binary
  | list
  | mapping
  | orderedPairs
  | set
  | unknown
  deriving DecidableEq, Inhabited

namespace Meaning

/-- The names of tags behind their common start. -/
def names : List (Meaning × String) :=
  [(.null, "null"), (.truth, "bool"), (.integer, "int"), (.float, "float"),
   (.timestamp, "timestamp"), (.merge, "merge"), (.default, "value"), (.text, "str"),
   (.binary, "binary"), (.list, "seq"), (.mapping, "map"), (.orderedPairs, "omap"),
   (.orderedPairs, "pairs"), (.set, "set")]

/-- The common start of the tags that the format defines. -/
def tagStart : Text := "tag:yaml.org,2002:"

/-- The kind that a tag names. -/
def ofTag (tag : Text) : Meaning :=
  ((names.find? fun e => tagStart ++ Text.ofString e.2 = tag).map (·.1)).getD .unknown

/-! ## Plain scalars -/

/-- A decimal digit. -/
def isDigit (c : Char) : Bool := '0' ≤ c && c ≤ '9'

/-- A decimal digit or an underscore. -/
def isLooseDigit (c : Char) : Bool := isDigit c || c = '_'

/-- The text without a sign at its start. -/
def unsigned : List Char → List Char
  | '+' :: cs => cs
  | '-' :: cs => cs
  | cs => cs

/-- Whether a text is empty or an exponent with a sign. -/
def isExponent : List Char → Bool
  | [] => true
  | e :: sign :: digits =>
    (e = 'e' || e = 'E') && (sign = '+' || sign = '-') && !digits.isEmpty && digits.all isDigit
  | _ => false

/-- The text behind groups of a colon and a number below sixty, at least one. -/
def afterSixties : Nat → List Char → Option (List Char)
  | 0, _ => none
  | fuel + 1, ':' :: cs =>
    let digits := cs.takeWhile isDigit
    let isGroup := digits.length = 1 || (digits.length = 2 && digits.headD '9' ≤ '5')
    let rest := cs.drop digits.length
    if !isGroup then none
    else if rest.head? = some ':' then afterSixties fuel rest
    else some rest
  | _, _ => none

/-- Whether a text is a number with a point: in decimal, or in base sixty before the point. -/
def isFloat (cs : List Char) : Bool :=
  let body := unsigned cs
  let loose := body.takeWhile isLooseDigit
  let rest := body.drop loose.length
  let startsWithDigit := (body.head?.map isDigit).getD false
  let decimal := startsWithDigit &&
    match rest with
    | '.' :: fraction => isExponent (fraction.dropWhile isLooseDigit)
    | _ => false
  let sixty := startsWithDigit &&
    match afterSixties (rest.length + 1) rest with
    | some ('.' :: fraction) => fraction.all isLooseDigit
    | _ => false
  let pointFirst :=
    match cs with
    | '.' :: d :: fraction => isDigit d && isExponent (fraction.dropWhile isLooseDigit)
    | _ => false
  decimal || sixty || pointFirst ||
    [['.', 'i', 'n', 'f'], ['.', 'I', 'n', 'f'], ['.', 'I', 'N', 'F']].contains body ||
    [['.', 'n', 'a', 'n'], ['.', 'N', 'a', 'N'], ['.', 'N', 'A', 'N']].contains cs

/-- Whether a text is a whole number: in base two, eight, ten, sixteen or sixty. -/
def isInteger (cs : List Char) : Bool :=
  let body := unsigned cs
  match body with
  | ['0'] => true
  | '0' :: 'b' :: digits => !digits.isEmpty && digits.all fun c => c = '0' || c = '1' || c = '_'
  | '0' :: 'x' :: digits =>
    !digits.isEmpty && digits.all fun c =>
      isLooseDigit c || ('a' ≤ c && c ≤ 'f') || ('A' ≤ c && c ≤ 'F')
  | '0' :: digits => digits.all fun c => ('0' ≤ c && c ≤ '7') || c = '_'
  | d :: _ =>
    isDigit d &&
      let rest := body.dropWhile isLooseDigit
      rest.isEmpty || afterSixties (rest.length + 1) rest = some []
  | [] => false

/-- The text behind digits whose number is in a range. -/
def afterDigits? (least most : Nat) (cs : List Char) : Option (List Char) :=
  let digits := cs.takeWhile isDigit
  if least ≤ digits.length ∧ digits.length ≤ most then some (cs.drop digits.length) else none

/-- The text behind a character. -/
def afterChar? (c : Char) : List Char → Option (List Char)
  | d :: cs => if d = c then some cs else none
  | [] => none

/-- The text behind what separates a day from a time: the letter `t`, or blanks. -/
def afterDay? : List Char → Option (List Char)
  | 'T' :: cs => some cs
  | 't' :: cs => some cs
  | cs =>
    let blanks := cs.takeWhile fun c => c = ' ' || c = '\t'
    if blanks.isEmpty then none else some (cs.drop blanks.length)

/-- Whether a text is empty or a time zone, which blanks may precede. -/
def isZone (cs : List Char) : Bool :=
  match cs.dropWhile fun c => c = ' ' || c = '\t' with
  | [] => cs.isEmpty
  | ['Z'] => true
  | sign :: rest =>
    (sign = '+' || sign = '-') &&
      match afterDigits? 1 2 rest with
      | some [] => true
      | some (':' :: minutes) => afterDigits? 2 2 minutes = some []
      | _ => false

/-- The text behind a time of day, with a fraction of a second if one follows. -/
def afterTime? (cs : List Char) : Option (List Char) := do
  let cs ← afterChar? ':' (← afterDigits? 1 2 cs)
  let cs ← afterChar? ':' (← afterDigits? 2 2 cs)
  let cs ← afterDigits? 2 2 cs
  match cs with
  | '.' :: fraction => some (fraction.dropWhile isDigit)
  | _ => some cs

/-- Whether a text is a day, or a day and a time. A day alone has two digits for its month and its
    day. -/
def isTimestamp (cs : List Char) : Bool :=
  let dayWith (least : Nat) : Option (List Char) := do
    let cs ← afterChar? '-' (← afterDigits? 4 4 cs)
    let cs ← afterChar? '-' (← afterDigits? least 2 cs)
    afterDigits? least 2 cs
  dayWith 2 = some [] ||
    (((dayWith 1).bind afterDay?).bind afterTime?).any isZone

/-- The words for truth values in lower case. -/
def truthWords : List String := ["yes", "no", "true", "false", "on", "off"]

/-- A word in lower case, with a capital at its start, and in capitals. -/
def spellings (word : String) : List (List Char) :=
  let cs := word.toList
  [cs, (cs.take 1).map Char.toUpper ++ cs.drop 1, cs.map Char.toUpper]

/-- The kind that the text of a plain scalar has. -/
def ofPlain (t : Text) : Meaning :=
  match t.chars? with
  | none => .text
  | some cs =>
    if (truthWords.flatMap spellings).contains cs then .truth
    else if isFloat cs then .float
    else if isInteger cs then .integer
    else if cs = ['<', '<'] then .merge
    else if cs = [] ∨ cs = ['~'] ∨ (spellings "null").contains cs then .null
    else if isTimestamp cs then .timestamp
    else if cs = ['='] then .default
    else if cs = ['!'] ∨ cs = ['&'] ∨ cs = ['*'] then .unknown
    else .text

end Meaning

end ImportPolicy.Yaml
