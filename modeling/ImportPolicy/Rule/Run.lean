import ImportPolicy.Check.Extensions
import ImportPolicy.Rule.Config
import ImportPolicy.Snapshot.Basic

/-! # Running rules

Rules look at one file after another and report issues. A run replaces the issues of every file and
counts them anew.

* `Rule` — what a rule reports in a context.
* `run` — a run of rules over a snapshot.
* `importExtensions` — the rule on extensions of import specifiers.
* `RuleConfig.rules` — the rules that a configuration switches on. -/

namespace ImportPolicy

variable {ε : Type}

/-- What a rule sees: the snapshot so far, the file to look at, the configuration, and the world as
    seen from the file. -/
structure Context (ε : Type) where
  snapshot : Snapshot
  file : SourceFile
  config : RuleConfig
  resolver : Resolver ε

/-- A rule reports issues about the file of a context. -/
abbrev Rule (ε : Type) := Context ε → Except ε (List Issue)

/-- The issues that rules report in a context, in the order of the rules. -/
def issuesIn (rules : List (Rule ε)) (c : Context ε) : Except ε (List Issue) :=
  match rules with
  | [] => .ok []
  | rule :: rest => do
    let issues ← rule c
    return issues ++ (← issuesIn rest c)

/-- Runs rules over the files that are left. The files that are done stand before them in the
    snapshot that the rules see. -/
def runFiles (rules : List (Rule ε)) (s : Snapshot) (config : RuleConfig)
    (resolverFor : SourceFile → Except ε (Resolver ε)) (done : List SourceFile) :
    List SourceFile → Except ε (List SourceFile)
  | [] => .ok done
  | file :: rest => do
    let resolver ← resolverFor file
    let issues ← issuesIn rules
      ⟨{ s with files := done ++ file :: rest }, file, config, resolver⟩
    runFiles rules s config resolverFor (done ++ [{ file with issues }]) rest

/-- Runs rules over all files of a snapshot. -/
def run (rules : List (Rule ε)) (s : Snapshot) (config : RuleConfig)
    (resolverFor : SourceFile → Except ε (Resolver ε)) : Except ε Snapshot := do
  let files ← runFiles rules s config resolverFor [] s.files
  return { s with files, summary := some (Summary.ofFiles files) }

/-! ## The rule on extensions -/

/-- The name of the rule on extensions. -/
def importExtensionsId : Text := "IMPORT_EXTENSIONS"

/-- The issue about an import site with a finding. -/
def issueAbout (severity : Severity) (file : SourceFile) (site : Script.ImportSite)
    (d : Diagnostic) : Issue where
  id := Issue.idOf importExtensionsId file.path (Text.ofInt site.line)
  ruleId := importExtensionsId
  severity := severity
  message := d.message
  location := ⟨file.path, site.line, some site.column⟩
  symbol := some site.specifier
  tags := ["imports", d.kind.name ++ "-extension"]

/-- The issues about import sites, in their order. -/
def issuesAbout (p : Policy) (r : Resolver ε) (severity : Severity) (file : SourceFile) :
    List Script.ImportSite → Except ε (List Issue)
  | [] => .ok []
  | site :: rest => do
    let found ← checkSite p r site
    let issues ← issuesAbout p r severity file rest
    return (found.map (issueAbout severity file site)).toList ++ issues

/-- The rule on extensions: an issue for every import site with a finding. -/
def importExtensions (p : Policy) (severity : Severity) : Rule ε := fun c =>
  issuesAbout p c.resolver severity c.file c.file.imports

/-- The policy, with calls of `require` included if that is forced. -/
def Policy.forced (p : Policy) (force : Bool) : Policy :=
  if force then { p with commonjs := true } else p

/-- The rules that a configuration switches on. -/
def RuleConfig.rules (c : RuleConfig) (force : Bool) :
    Except Policy.OptionsError (List (Rule ε)) :=
  if c.enabled then do
    let p ← c.policy
    return [importExtensions (p.forced force) c.severity]
  else .ok []

end ImportPolicy
