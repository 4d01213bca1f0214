import ImportPolicy.Text.Table

/-! # Resolvers

What a check has to know of the world around an importing file.

* `Resolver` — looking up a specifier, and the classes of specifiers. -/

namespace ImportPolicy

/-- The view of the world from one importing file. A lookup gives the path that a specifier stands
    for, if there is one, or fails with an `ε`. -/
structure Resolver (ε : Type) where
  resolve : Text → Except ε (Option Text)
  isBuiltin : Text → Bool
  isPackageMain : Text → Bool
  isScopedMain : Text → Bool

namespace Resolver

variable {ε : Type}

/-- Whether a specifier names a package as a whole. -/
def isMain (r : Resolver ε) (specifier : Text) : Bool :=
  r.isPackageMain specifier || r.isScopedMain specifier

/-- The resolver that looks everything up in tables. -/
def ofTables (paths : Table (Option Text)) (builtins packageMains scopedMains : List Text) :
    Resolver ε where
  resolve specifier := .ok ((paths.find? specifier).getD none)
  isBuiltin specifier := builtins.contains specifier
  isPackageMain specifier := packageMains.contains specifier
  isScopedMain specifier := scopedMains.contains specifier

end Resolver

end ImportPolicy
