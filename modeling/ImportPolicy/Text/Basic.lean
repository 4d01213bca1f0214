/-! # Text

A `Text` is a list of code points. A code point is a Unicode scalar value or one half of a
surrogate pair standing alone: a string literal of a script may denote such a half, so it can
reach specifiers, messages and paths, and has no encoding as bytes.

* `CodePoint`, `CodePoint.toNat`, `CodePoint.ofNat?` — code points and their numbers.
* `Text.ofString` — the text of a string; also a coercion, so literals are texts.
* `Text.splitOn`, `Text.joinWith` — cutting at a separator and its inverse.
* `Text.precedes` — the order by code point. -/

namespace ImportPolicy

/-- A Unicode scalar value, or a lone surrogate given by its offset from U+D800. -/
inductive CodePoint where
  | scalar (c : Char)
  | surrogate (offset : Fin 2048)
  deriving DecidableEq, Inhabited

namespace CodePoint

/-- The number of the code point. -/
def toNat : CodePoint → Nat
  | .scalar c => c.toNat
  | .surrogate offset => 0xD800 + offset.val

/-- The code point with the given number, if the number is at most 0x10FFFF. -/
def ofNat? (n : Nat) : Option CodePoint :=
  if h : n.isValidChar then some (.scalar (Char.ofNatAux n h))
  else if h : 0xD800 ≤ n ∧ n < 0xE000 then some (.surrogate ⟨n - 0xD800, by omega⟩)
  else none

/-- The character of a scalar value. -/
def char? : CodePoint → Option Char
  | .scalar c => some c
  | .surrogate _ => none

instance : Coe Char CodePoint := ⟨.scalar⟩

@[simp] theorem scalar_inj {c d : Char} : CodePoint.scalar c = .scalar d ↔ c = d :=
  ⟨fun h => by injection h, fun h => h ▸ rfl⟩

end CodePoint

/-- A sequence of code points. -/
abbrev Text := List CodePoint

namespace Text

/-- The text of a list of characters. -/
def ofChars (cs : List Char) : Text := cs.map .scalar

/-- The text of a string. -/
def ofString (s : String) : Text := ofChars s.toList

instance : Coe String Text := ⟨ofString⟩
instance : HAppend String Text Text := ⟨fun s t => ofString s ++ t⟩
instance : HAppend Text String Text := ⟨fun t s => t ++ ofString s⟩

/-- The characters of a text without lone surrogates. -/
def chars? (t : Text) : Option (List Char) := t.mapM CodePoint.char?

/-- The string of a text without lone surrogates. -/
def string? (t : Text) : Option String := (chars? t).map String.ofList

/-- The digits of a natural number. -/
def ofNat (n : Nat) : Text := ofChars (Nat.toDigits 10 n)

/-- The decimal spelling of an integer. -/
def ofInt : Int → Text
  | .ofNat n => ofNat n
  | .negSucc n => .scalar '-' :: ofNat (n + 1)

/-- The pieces of a text between the occurrences of a separator. There is one piece more than
    there are separators, so an empty text has one empty piece. -/
def splitOn (separator : CodePoint) : Text → List Text
  | [] => [[]]
  | c :: rest =>
    if c = separator then [] :: splitOn separator rest
    else match splitOn separator rest with
      | [] => [[c]]
      | piece :: pieces => (c :: piece) :: pieces

/-- The pieces put one after another with a separator between neighbours. -/
def joinWith (separator : Text) : List Text → Text
  | [] => []
  | [piece] => piece
  | piece :: pieces => piece ++ separator ++ joinWith separator pieces

/-- Whether a text starts with another. -/
def startsWith (t start : Text) : Bool := start.isPrefixOf t

/-- Whether a text ends with another. -/
def endsWith (t ending : Text) : Bool := ending.isSuffixOf t

/-- The text without its first code points that satisfy a test and without its last ones. -/
def strip (test : CodePoint → Bool) (t : Text) : Text :=
  ((t.dropWhile test).reverse.dropWhile test).reverse

/-- The text without its last code points that satisfy a test. -/
def stripEnd (test : CodePoint → Bool) (t : Text) : Text :=
  (t.reverse.dropWhile test).reverse

/-- The order by code point: the first difference decides, and a proper initial part comes
    first. -/
def precedes : Text → Text → Bool
  | [], [] => false
  | [], _ :: _ => true
  | _ :: _, [] => false
  | a :: s, b :: t =>
    if a.toNat < b.toNat then true
    else if b.toNat < a.toNat then false
    else precedes s t

theorem ofChars_inj {s t : List Char} : ofChars s = ofChars t ↔ s = t :=
  List.map_inj_right fun _ _ same => CodePoint.scalar_inj.1 same

@[simp] theorem splitOn_nil (separator : CodePoint) : splitOn separator [] = [[]] := rfl

theorem splitOn_ne_nil (separator : CodePoint) (t : Text) : splitOn separator t ≠ [] := by
  cases t with
  | nil => simp
  | cons c rest =>
    rw [splitOn]
    split
    · simp
    · split <;> simp

/-- Joining the pieces at the separator gives the text back. -/
theorem joinWith_splitOn (separator : CodePoint) (t : Text) :
    joinWith [separator] (splitOn separator t) = t := by
  induction t with
  | nil => rfl
  | cons c rest ih =>
    rw [splitOn]
    have hne := splitOn_ne_nil separator rest
    split
    · next h =>
      cases hs : splitOn separator rest with
      | nil => exact absurd hs hne
      | cons piece pieces => rw [hs] at ih; simp [joinWith, ih, h]
    · cases hs : splitOn separator rest with
      | nil => exact absurd hs hne
      | cons piece pieces =>
        rw [hs] at ih
        cases pieces with
        | nil => simpa [joinWith] using ih
        | cons next more => simpa [joinWith] using ih

/-- No piece holds the separator. -/
theorem not_mem_of_mem_splitOn {separator : CodePoint} {t piece : Text}
    (h : piece ∈ splitOn separator t) : separator ∉ piece := by
  induction t generalizing piece with
  | nil => simp_all [splitOn]
  | cons c rest ih =>
    rw [splitOn] at h
    split at h
    · rcases List.mem_cons.1 h with rfl | h
      · simp
      · exact ih h
    · next hc =>
      split at h
      · next hs => exact absurd hs (splitOn_ne_nil separator rest)
      · next first pieces hs =>
        rcases List.mem_cons.1 h with rfl | h
        · have := @ih first (by simp [hs])
          simp [this, Ne.symm hc]
        · exact ih (by simp [hs, h])

end Text

end ImportPolicy
