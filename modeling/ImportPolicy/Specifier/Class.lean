import ImportPolicy.Path
import ImportPolicy.Settings
import ImportPolicy.Text.Word

/-! # Classes of specifiers

What a specifier names, told from its text alone.

* `Specifier.baseModule` — the package that a specifier starts with.
* `Specifier.isBuiltin` — names of modules that come with the runtime.
* `Specifier.isPackageMain`, `Specifier.isScopedMain` — names of packages without a path in them.
* `Specifier.isExternalPath` — paths inside a folder of packages. -/

namespace ImportPolicy.Specifier

/-- The modules that come with the runtime. -/
def builtinModules : List Text :=
  ["assert", "assert/strict", "async_hooks", "buffer", "child_process", "cluster", "console",
   "constants", "crypto", "dgram", "diagnostics_channel", "dns", "dns/promises", "domain",
   "events", "fs", "fs/promises", "http", "http2", "https", "inspector", "module", "net", "os",
   "path", "path/posix", "path/win32", "perf_hooks", "process", "punycode", "querystring",
   "readline", "readline/promises", "repl", "stream", "stream/consumers", "stream/promises",
   "stream/web", "string_decoder", "sys", "timers", "timers/promises", "tls", "trace_events",
   "tty", "url", "util", "util/types", "v8", "vm", "wasi", "worker_threads", "zlib"].map Text.ofString

/-- The package that a specifier starts with: its first segment, or the first two if it starts
    with an at sign. -/
def baseModule (name : Text) : Text :=
  let segments := Text.splitOn Path.slash name
  if name.head? = some (.scalar '@') then Text.joinWith "/" (segments.take 2)
  else segments.headD []

/-- Whether a specifier names a module of the runtime, or one that the settings add. -/
def isBuiltin (settings : Settings) (name : Text) : Bool :=
  Text.startsWith name "node:" || builtinModules.contains name ||
    builtinModules.contains (baseModule name) || settings.coreModules.contains (baseModule name)

/-- Whether a path lies in a folder of packages; no path at all counts as one that does. -/
def isExternalPath (settings : Settings) (path : Option Text) : Bool :=
  match path with
  | none => true
  | some [] => true
  | some t => settings.externalModuleFolders.any ((Path.ofText t).allParts.contains ·)

/-- Whether code points hold neither a slash nor a line feed, except a line feed at the very end. -/
def isPlainRest : Text → Bool
  | [] => true
  | [c] => c ≠ Path.slash
  | c :: rest => c ≠ Path.slash && c ≠ .scalar '\n' && isPlainRest rest

/-- Whether a specifier is the bare name of a package: it starts with a word character and has no
    slash. -/
def isPackageMain (name : Text) : Bool :=
  match name with
  | [] => false
  | c :: rest => c.isWord && isPlainRest rest

/-- Whether a specifier is the name of a package in a scope: an at sign and then one piece of at
    least two code points, or two pieces with a slash between them. -/
def isScopedMain (name : Text) : Bool :=
  match name with
  | [] => false
  | c :: rest =>
    c = .scalar '@' &&
      match Text.splitOn Path.slash rest with
      | [piece] => 2 ≤ piece.length
      | [scope, package] => !scope.isEmpty && !package.isEmpty
      | _ => false

/-- Whether a specifier names a place by path: from the directory of the importing file, or from
    the root. -/
def isPathLike (name : Text) : Bool :=
  name = "." || name = ".." || Text.startsWith name "./" || Text.startsWith name "../" ||
    Text.startsWith name "/"

end ImportPolicy.Specifier
