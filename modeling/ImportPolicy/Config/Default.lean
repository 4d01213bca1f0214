import ImportPolicy.Language
import ImportPolicy.Rule.Config
import ImportPolicy.Settings

/-! # The built-in configuration

* `Config.builtIn` — the configuration that holds where no file says otherwise. -/

namespace ImportPolicy.Config

/-- The names of directories whose files are left out. -/
def ignoredDirectories : List Text :=
  ["node_modules/", "bower_components/", "dist/", "build/", "coverage/", ".git/"]

/-- The languages with the suffixes of their files. -/
def languages : Mapping :=
  Language.all.map fun l =>
    (.str l.name, .map [("extensions", .list (l.suffixes.map .str))])

/-- The configuration that holds where no file says otherwise. -/
def builtIn : Mapping :=
  [("languages", .map languages),
   ("ignore_paths", .list (ignoredDirectories.map .str)),
   ("settings", .map (Settings.entries {})),
   ("rules", .map [("import_extensions", .map (RuleConfig.entries {}))])]

end ImportPolicy.Config
