import ImportPolicy.Number.Shortest
import ImportPolicy.Value.Display

/-! # Writing JSON

JSON over several lines with an indent of two spaces. Characters other than controls, quotes and
backslashes are written as they are.

* `Json.writeString` — a text in quotes.
* `Json.render` — a value. -/

namespace ImportPolicy.Json

/-- A code point inside quotes. -/
def writePoint (c : CodePoint) : Text :=
  if c = .scalar '\x22' then "\\\""
  else if c = .scalar '\\' then "\\\\"
  else if c.toNat = 0x08 then "\\b"
  else if c.toNat = 0x09 then "\\t"
  else if c.toNat = 0x0A then "\\n"
  else if c.toNat = 0x0C then "\\f"
  else if c.toNat = 0x0D then "\\r"
  else if c.toNat < 0x20 then "\\u" ++ Text.ofChars (Text.hexDigits 4 c.toNat)
  else [c]

/-- A text in quotes. -/
def writeString (t : Text) : Text := "\"" ++ t.flatMap writePoint ++ "\""

/-- A new line at a depth of nesting. -/
def newLine (depth : Nat) : Text := Text.ofChars ('\n' :: List.replicate (2 * depth) ' ')

mutual

/-- The JSON of a value at a depth of nesting. A value that JSON lacks is written as null. -/
def render (depth : Nat) : Value → Text
  | .bool b => if b then "true" else "false"
  | .int i => Text.ofInt i
  | .float x => x.spell
  | .str t => writeString t
  | .list [] => "[]"
  | .list (item :: items) =>
    "[" ++ newLine (depth + 1) ++ render (depth + 1) item ++ renderItems depth items
  | .map [] => "\x7b\x7d"
  | .map ((key, value) :: entries) =>
    "\x7b" ++ newLine (depth + 1) ++ render (depth + 1) key ++ ": " ++ render (depth + 1) value ++
      renderEntries depth entries
  | _ => "null"

/-- The further items of a list and its closing bracket. -/
def renderItems (depth : Nat) : List Value → Text
  | [] => newLine depth ++ "]"
  | item :: items =>
    "," ++ newLine (depth + 1) ++ render (depth + 1) item ++ renderItems depth items

/-- The further entries of a mapping and its closing brace. -/
def renderEntries (depth : Nat) : List (Value × Value) → Text
  | [] => newLine depth ++ "\x7d"
  | (key, value) :: entries =>
    "," ++ newLine (depth + 1) ++ render (depth + 1) key ++ ": " ++ render (depth + 1) value ++
      renderEntries depth entries

end

end ImportPolicy.Json
