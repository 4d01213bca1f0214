import ImportPolicy.Rule.Run

/-! # Runs one after another

A snapshot is checked again and again, each time as another request asks for. Every run starts from
what the runs before it have left. One that is refused leaves everything as it is, and one that
breaks off leaves new issues in the files that it has come to.

* `attempt` — what a run of rules leaves, and what it broke off for.
* `RunRequest`, `RunRequest.perform` — a run as it is asked for, and what it leaves.
* `session` — what several runs leave. -/

namespace ImportPolicy

variable {ε : Type}

/-- Runs rules over the files that are left, up to one that cannot be checked. That file and those
    behind it keep the issues that they have. -/
def attemptFiles (rules : List (Rule ε)) (s : Snapshot) (config : RuleConfig)
    (resolverFor : SourceFile → Except ε (Resolver ε)) (done : List SourceFile) :
    List SourceFile → List SourceFile × Option ε
  | [] => (done, none)
  | file :: rest =>
    let issues := do
      let resolver ← resolverFor file
      issuesIn rules ⟨{ s with files := done ++ file :: rest }, file, config, resolver⟩
    match issues with
    | .ok issues =>
      attemptFiles rules s config resolverFor (done ++ [{ file with issues }]) rest
    | .error e => (done ++ file :: rest, some e)

/-- Runs rules over all files of a snapshot. The issues are counted only at the end. -/
def attempt (rules : List (Rule ε)) (s : Snapshot) (config : RuleConfig)
    (resolverFor : SourceFile → Except ε (Resolver ε)) : Snapshot × Option ε :=
  match attemptFiles rules s config resolverFor [] s.files with
  | (files, none) => ({ s with files, summary := some (Summary.ofFiles files) }, none)
  | (files, some e) => ({ s with files }, some e)

/-- A run as it is asked for. A resolver is bound to a file, whatever issues the file has. -/
structure RunRequest (ε : Type) where
  config : RuleConfig
  force : Bool
  resolverFor : SourceFile → Except ε (Resolver ε)
  resolver_bound : ∀ (file : SourceFile) (issues : List Issue),
    resolverFor { file with issues } = resolverFor file

/-- How a run ends. -/
inductive RunEnd (ε : Type) where
  | completed
  | rejected (e : Policy.OptionsError)
  | aborted (e : ε)

/-- What a run leaves of a snapshot, and how it ends. -/
def RunRequest.perform (q : RunRequest ε) (s : Snapshot) : Snapshot × RunEnd ε :=
  match q.config.rules q.force with
  | .error e => (s, .rejected e)
  | .ok rules =>
    match attempt rules s q.config q.resolverFor with
    | (ended, none) => (ended, .completed)
    | (left, some e) => (left, .aborted e)

/-- What runs leave of a snapshot, one after another. -/
def session (s : Snapshot) (requests : List (RunRequest ε)) : Snapshot :=
  requests.foldl (fun s q => (q.perform s).1) s

end ImportPolicy
