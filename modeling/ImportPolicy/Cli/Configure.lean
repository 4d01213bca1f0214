import ImportPolicy.Cli.Outcome
import ImportPolicy.Yaml.Printer

/-! # Managing the configuration

* `Cli.createConfig` — writes the built-in configuration to a file.
* `Cli.validateConfig` — says whether the configuration is accepted.
* `Cli.showPolicy` — prints the policy that the configuration says. -/

namespace ImportPolicy.Cli

/-- A mapping that holds a policy. -/
def policyEntries (p : Policy) : Mapping :=
  [("default_config", .str p.fallback.name),
   ("pattern", .map (p.pattern.map fun e => (.str e.1, .str e.2.name))),
   ("ignore_packages", .bool p.ignorePackages),
   ("commonjs", .bool p.commonjs)]

/-- Writes the built-in configuration to the project's file, unless there is one already. -/
def createConfig (w : World) (force : Bool) : Outcome :=
  let name := Config.projectFileName
  let isThere : Bool := match w.tree.reachWritten w.current name with
    | .ok _ => true
    | .error _ => false
  if isThere && !force then
    ⟨w.tree, ["Use --force to overwrite."], ["Configuration file already exists at " ++ name],
      .exit 0⟩
  else
    match w.tree.writeLocation w.current name with
    | .error e => w.ended (.fault (.write e))
    | .ok place =>
      let content := (Text.bytes? (Yaml.render Config.builtIn)).getD []
      ⟨w.tree.writeAt place content, ["Configuration file created at " ++ name], [], .exit 0⟩

/-- The words before the reason why a configuration is not accepted. -/
def invalidOpening : Text := "Configuration is invalid:\n"

/-- Says whether the configuration is accepted. -/
def validateConfig (w : World) (config : Mapping) : Outcome :=
  match Config.validate config with
  | .ok () => w.said "Configuration is valid."
  | .error e => w.refused invalidOpening 1 e

/-- The rule of a configuration with its policy. -/
def effectivePolicy (config : Mapping) : Except Config.UseError (RuleConfig × Policy) := do
  let c ← Config.rule config
  return (c, ← Config.policyOf c)

/-- Prints the policy that the configuration says. -/
def showPolicy (w : World) (config : Mapping) : Outcome :=
  match effectivePolicy config with
  | .error e => w.refused invalidOpening 1 e
  | .ok (c, p) =>
    let shown : Mapping :=
      [("enabled", .bool c.enabled), ("severity", .str c.severity.name),
       ("policy", .map (policyEntries p))]
    w.said (Text.stripEnd CodePoint.isBlank (Yaml.render shown))

end ImportPolicy.Cli
