/-! # Line ends

A text file may end its lines with a line feed, a carriage return, or both. Reading it as text
makes every line end a line feed.

* `unifyNewlines` — the text with line feeds only.
* `lines` — the lines of such a text. -/

namespace ImportPolicy.Text

/-- Every line end as one line feed. -/
def unifyNewlines : List Char → List Char
  | [] => []
  | '\r' :: '\n' :: rest => '\n' :: unifyNewlines rest
  | '\r' :: rest => '\n' :: unifyNewlines rest
  | c :: rest => c :: unifyNewlines rest

/-- The lines of a text whose lines end in line feeds. A final line feed opens no further line. -/
def lines : List Char → List (List Char)
  | [] => []
  | '\n' :: rest => [] :: lines rest
  | c :: rest =>
    match lines rest with
    | [] => [[c]]
    | line :: more => (c :: line) :: more

end ImportPolicy.Text
