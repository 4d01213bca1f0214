import ImportPolicy.Value.Basic

/-! # Parts of a value

* `Value.parts?` — what a value is made of, where it is used as a collection.
* `Value.wrapped` — a value as the list of options that it stands for. -/

namespace ImportPolicy.Value

/-- The members of a collection: the items of a list, the code points of a text, the keys of a
    mapping. Other values are no collections. -/
def parts? : Value → Option (List Value)
  | .list items => some items
  | .set members => some members
  | .pair first second => some [first, second]
  | .str t => some (t.map fun c => .str [c])
  | .map entries => some (entries.map (·.1))
  | .bytes bs => some (bs.map fun b => .int b.toNat)
  | _ => none

/-- A text or a mapping that stands where a list is expected is its only item. -/
def wrapped : Value → Value
  | .str t => .list [.str t]
  | .map entries => .list [.map entries]
  | v => v

end ImportPolicy.Value
