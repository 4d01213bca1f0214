import ImportPolicy.Check.Diagnostic
import ImportPolicy.Check.Resolver
import ImportPolicy.Policy.Basic
import ImportPolicy.Script.Imports
import ImportPolicy.Specifier.Extension

/-! # Checking extensions

Decides for one specifier at a time whether it spells or leaves out an extension against the
policy. A check keeps nothing from one specifier to the next.

* `check` — the finding about a specifier.
* `checkSite` — the finding about an import site. -/

namespace ImportPolicy

open Script (ImportSite ImportKind)

variable {ε : Type}

/-- The text that the extension is taken from: the path that a specifier stands for, or the
    specifier itself if there is no path. -/
def subject (resolved : Option Text) (specifier : Text) : Text :=
  match resolved with
  | some (c :: path) => c :: path
  | _ => specifier

/-- Whether a specifier ends with a point and an extension, which has to be there. -/
def spells (specifier extension : Text) : Bool :=
  !extension.isEmpty && Text.endsWith specifier (.scalar '.' :: extension)

/-- The specifier without the point and the extension at its end. -/
def withoutExtension (specifier extension : Text) : Text :=
  specifier.take (specifier.length - (extension.length + 1))

/-- The finding about a specifier. Modules of the runtime pass. An extension that is not spelt is
    missing if the policy requires it; one that is spelt is unexpected if the policy forbids it and
    the specifier without it stands for the same path. -/
def check (p : Policy) (r : Resolver ε) (specifier : Text) : Except ε (Option Diagnostic) :=
  if r.isBuiltin specifier then .ok none
  else do
    let resolved ← r.resolve specifier
    let extension := extensionOf (subject resolved specifier)
    if spells specifier extension then
      if p.forbids extension then
        let bare ← r.resolve (withoutExtension specifier extension)
        return if bare = resolved then some ⟨.unexpected, specifier, extension⟩ else none
      else return none
    else if p.requires extension (r.isMain specifier) then
      return some ⟨.missing, specifier, extension⟩
    else return none

/-- The finding about the source of a declaration, which may have none. -/
def checkDeclaration (p : Policy) (r : Resolver ε) :
    Option ImportSite → Except ε (Option Diagnostic)
  | none => .ok none
  | some site => check p r site.specifier

/-- The finding about an import site. Calls of `require` are checked only if the policy says so. -/
def checkSite (p : Policy) (r : Resolver ε) (site : ImportSite) : Except ε (Option Diagnostic) :=
  if site.kind = .requiring ∧ p.commonjs = false then .ok none
  else checkDeclaration p r (some site)

end ImportPolicy
