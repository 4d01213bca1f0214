import ImportPolicy.Text.Table

/-! # Policies

A policy says for each file extension whether imports have to spell it.

* `Modifier` — what may be said of an extension.
* `Policy` — a modifier for every extension, and the two switches.
* `Policy.modifierFor`, `Policy.requires`, `Policy.forbids` — what a policy says of an extension. -/

namespace ImportPolicy

/-- What a policy says of an extension. -/
inductive Modifier where
  | always
  | ignorePackages
  | never
  deriving DecidableEq, Inhabited

namespace Modifier

/-- All modifiers. -/
def all : List Modifier := [.always, .ignorePackages, .never]

/-- The word for a modifier. -/
def name : Modifier → String
  | .always => "always"
  | .ignorePackages => "ignorePackages"
  | .never => "never"

/-- The modifier that a word names. -/
def ofName? (t : Text) : Option Modifier := all.find? fun m => Text.ofString m.name = t

theorem ofName?_name (m : Modifier) : ofName? m.name = some m := by cases m <;> decide

theorem eq_name_of_ofName? {t : Text} {m : Modifier} (h : ofName? t = some m) :
    t = Text.ofString m.name := by
  have := List.find?_some h
  exact (of_decide_eq_true this).symm

end Modifier

/-- The extensions to spell and to leave out. `fallback` holds for every extension that `pattern`
    does not list; `ignorePackages` frees the main module of a package from spelling one; `commonjs`
    includes calls of `require`. -/
structure Policy where
  fallback : Modifier := .never
  pattern : Table Modifier := []
  ignorePackages : Bool := false
  commonjs : Bool := false
  deriving DecidableEq, Inhabited

namespace Policy

/-- What the policy says of an extension. -/
def modifierFor (p : Policy) (extension : Text) : Modifier :=
  (p.pattern.find? extension).getD p.fallback

/-- Whether an extension has to be spelt. -/
def requires (p : Policy) (extension : Text) (isPackageMain : Bool) : Bool :=
  p.modifierFor extension = .always && (!p.ignorePackages || !isPackageMain)

/-- Whether an extension has to be left out. -/
def forbids (p : Policy) (extension : Text) : Bool := p.modifierFor extension = .never

theorem not_requires_of_forbids {p : Policy} {extension : Text} (h : p.forbids extension = true)
    (isPackageMain : Bool) : p.requires extension isPackageMain = false := by
  simp_all [requires, forbids]

end Policy

end ImportPolicy
