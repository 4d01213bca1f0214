import ImportPolicy.Schema.Reader

/-! # Settings of the resolver

* `Settings` — the suffixes to try, further names of core modules, and the folders of packages.
* `Settings.read`, `Settings.entries` — the settings that a mapping holds, and the mapping that holds
  them. -/

namespace ImportPolicy

open Schema

/-- What module resolution and the classes of specifiers depend on. -/
structure Settings where
  extensions : List Text := [".mjs", ".js", ".json", ".node"]
  coreModules : List Text := []
  externalModuleFolders : List Text := ["node_modules"]
  deriving DecidableEq, Inhabited

namespace Settings

/-- The name that messages use for the settings. -/
def modelName : String := "ResolverSettings"

/-- The settings in the fields of a mapping. -/
def read (entries : Mapping) : Checked Settings :=
  let absent : Settings := {}
  Settings.mk
    <$> Reader.defaulted entries "extensions" absent.extensions (Reader.list Reader.text)
    <*> Reader.defaulted entries "core_modules" absent.coreModules (Reader.list Reader.text)
    <*> Reader.defaulted entries "external_module_folders" absent.externalModuleFolders
      (Reader.list Reader.text)

/-- A mapping that holds the settings. -/
def entries (s : Settings) : Mapping :=
  [("extensions", .list (s.extensions.map .str)),
   ("core_modules", .list (s.coreModules.map .str)),
   ("external_module_folders", .list (s.externalModuleFolders.map .str))]

end Settings

end ImportPolicy
