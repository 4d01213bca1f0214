import ImportPolicy.Yaml.Style

/-! # Printing YAML

A mapping has an entry on each line, with its collections in blocks below their keys. Lists are not
indented under their keys, and empty collections are written in brackets.

* `Yaml.render` — a mapping as a document. -/

namespace ImportPolicy.Yaml

namespace Printer

/-- A number with a point; a whole number with an exponent gets one. -/
def floatText (x : Binary64) : Text :=
  match x.kind with
  | .notANumber => ".nan"
  | .infinite negative => if negative then "-.inf" else ".inf"
  | _ =>
    let t := x.spell
    let isMark (c : CodePoint) : Bool := c = .scalar 'e'
    if t.contains (.scalar '.') || !t.any isMark then t
    else t.takeWhile (!isMark ·) ++ ".0" ++ t.dropWhile (!isMark ·)

/-- A value that is no collection, from a column on. Kinds without a form of their own are written
    as the text that shows them. -/
def scalar (fold : Option Nat) (column : Nat) : Value → Text
  | .null => "null"
  | .bool b => if b then "true" else "false"
  | .int i => Text.ofInt i
  | .float x => floatText x
  | .str t => Style.write fold column t
  | v => Style.write fold column v.plain

/-- The most characters that a key on one line with its value has. -/
def longestKey : Nat := 122

/-- Whether a key is on one line with its value. -/
def isSimpleKey : Value → Bool
  | .str t => !t.isEmpty && !Style.isMultiline t && t.length ≤ longestKey
  | _ => true

/-- Lines one below the other with an indentation. -/
def stack (indent : Nat) (blocks : List Text) : Text := Text.joinWith (Style.newLine indent) blocks

mutual

/-- A value at an indentation, behind an indicator. -/
def block (indent : Nat) : Value → Text
  | .list [] => "[]"
  | .list items => stack indent (itemBlocks indent items)
  | .map [] => "\x7b\x7d"
  | .map entries => stack indent (entryBlocks indent entries)
  | v => scalar (some indent) indent v

/-- The items of a list at an indentation. -/
def itemBlocks (indent : Nat) : List Value → List Text
  | [] => []
  | v :: rest => ("- " ++ block (indent + 2) v) :: itemBlocks indent rest

/-- A value behind the key of an entry at an indentation, from a column on. -/
def behindKey (indent column : Nat) : Value → Text
  | .list [] => " []"
  | .list items => Style.newLine indent ++ stack indent (itemBlocks indent items)
  | .map [] => " \x7b\x7d"
  | .map entries => Style.newLine (indent + 2) ++ stack (indent + 2) (entryBlocks (indent + 2) entries)
  | v => " " ++ scalar (some (indent + 2)) (column + 1) v

/-- The entries of a mapping at an indentation. A key that cannot be on one line with its value is
    marked with a question mark. -/
def entryBlocks (indent : Nat) : List (Value × Value) → List Text
  | [] => []
  | (key, v) :: rest =>
    (if isSimpleKey key then
      let written := scalar none indent key ++ ":"
      written ++ behindKey indent (indent + written.length) v
    else
      "? " ++ scalar (some (indent + 2)) (indent + 2) key ++ Style.newLine indent ++ ": "
        ++ block (indent + 2) v) :: entryBlocks indent rest

end

end Printer

/-- A mapping as a document. -/
def render (entries : Mapping) : Text := Printer.block 0 (.map entries) ++ "\n"

end ImportPolicy.Yaml
