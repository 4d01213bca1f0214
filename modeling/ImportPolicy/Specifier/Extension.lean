import ImportPolicy.Text.Basic

/-! # Extensions of paths and specifiers

* `extensionOf` — the part of the last segment behind its last point. -/

namespace ImportPolicy

/-- A slash or a backslash. -/
def isSeparator (c : CodePoint) : Bool := c = .scalar '/' || c = .scalar '\\'

/-- The text behind the last separator. -/
def lastSegment (t : Text) : Text := (t.reverse.takeWhile fun c => !isSeparator c).reverse

/-- The extension of a path: what stands behind the last point of its last segment. A segment whose
    last point has nothing but points before it has no extension. -/
def extensionOf (path : Text) : Text :=
  let backwards := (lastSegment path).reverse
  match backwards.dropWhile (· ≠ .scalar '.') with
  | [] => []
  | _ :: stem =>
    if stem.any (· ≠ .scalar '.') then (backwards.takeWhile (· ≠ .scalar '.')).reverse else []

end ImportPolicy
