import ImportPolicy.Number.Binary64
import ImportPolicy.Text.Basic
import ImportPolicy.Value.Calendar

/-! # Values

The data that configuration files, manifests and requests hold.

* `Value` — a value; a mapping keeps the order of its keys.
* `Value.sameKey` — when two values are one key of a mapping.
* `Mapping.find?`, `Mapping.put`, `Mapping.update` — looking up and writing entries. -/

namespace ImportPolicy

/-- A value of a data format. -/
inductive Value where
  | null
  | bool (b : Bool)
  | int (i : Int)
  | float (x : Binary64)
  | str (t : Text)
  | list (items : List Value)
  | map (entries : List (Value × Value))
  | date (d : RealDate)
  | moment (m : RealMoment)
  | bytes (bs : List UInt8)
  | set (members : List Value)
  | pair (first second : Value)
  deriving Inhabited

instance : Coe Text Value := ⟨.str⟩
instance : Coe String Value := ⟨fun s => .str s⟩

/-- The entries of a mapping in order. -/
abbrev Mapping := List (Value × Value)

namespace Value

/-- The number that a value counts as where it is a key: truth values are 0 and 1, and a whole
    double is its integer. -/
def keyInt? : Value → Option Int
  | .bool b => some (if b then 1 else 0)
  | .int i => some i
  | .float x => x.toInt?
  | _ => none

/-- Whether two values are one key: equal numbers of any kind are, and so are equal texts, days,
    times and bytes. As a key, no number is itself. -/
def sameKey : Value → Value → Bool
  | .null, .null => true
  | .str a, .str b => a = b
  | .date a, .date b => a = b
  | .moment a, .moment b => a = b
  | .bytes a, .bytes b => a = b
  | .float a, .float b => a = b || a.sameNumber b
  | .pair a b, .pair c d => sameKey a c && sameKey b d
  | a, b =>
    match keyInt? a, keyInt? b with
    | some i, some j => i = j
    | _, _ => false

/-- Whether a value can be a key of a mapping. -/
def isKey : Value → Bool
  | .list _ => false
  | .map _ => false
  | .set _ => false
  | .pair a b => isKey a && isKey b
  | _ => true

/-- The entries of a mapping. -/
def mapping? : Value → Option Mapping
  | .map entries => some entries
  | _ => none

/-- The text of a string. -/
def text? : Value → Option Text
  | .str t => some t
  | _ => none

/-- Whether a value counts as true: null, false, zero and everything empty do not. -/
def isTruthy : Value → Bool
  | .null => false
  | .bool b => b
  | .int i => i ≠ 0
  | .float x => !x.sameNumber (Binary64.ofMagnitude false 0)
  | .str t => !t.isEmpty
  | .list items => !items.isEmpty
  | .map entries => !entries.isEmpty
  | .bytes bs => !bs.isEmpty
  | .set members => !members.isEmpty
  | _ => true

/-- The word for the kind of a value. -/
def kindName : Value → String
  | .null => "NoneType"
  | .bool _ => "bool"
  | .int _ => "int"
  | .float _ => "float"
  | .str _ => "str"
  | .list _ => "list"
  | .map _ => "dict"
  | .date _ => "date"
  | .moment _ => "datetime"
  | .bytes _ => "bytes"
  | .set _ => "set"
  | .pair _ _ => "tuple"

end Value

namespace Mapping

/-- The value at a key. -/
def get? (entries : Mapping) (key : Value) : Option Value :=
  (entries.find? fun entry => entry.1.sameKey key).map (·.2)

/-- The value at a key that is a text. -/
def find? (entries : Mapping) (key : Text) : Option Value := entries.get? (.str key)

/-- Whether a mapping has a key that is a text. -/
def has (entries : Mapping) (key : Text) : Bool := (entries.find? key).isSome

/-- The entries with a key set to a value: in the key's place if it is there, else at the end. -/
def put (entries : Mapping) (key value : Value) : Mapping :=
  match entries with
  | [] => [(key, value)]
  | (k, v) :: rest => if k.sameKey key then (k, value) :: rest else (k, v) :: put rest key value

/-- The entries with all entries of another mapping put in, in its order. -/
def update (entries other : Mapping) : Mapping :=
  other.foldl (fun acc entry => acc.put entry.1 entry.2) entries

/-- The entries of a list of keys and values, where a later value replaces an earlier one. -/
def ofList (entries : List (Value × Value)) : Mapping := update [] entries

end Mapping

end ImportPolicy
