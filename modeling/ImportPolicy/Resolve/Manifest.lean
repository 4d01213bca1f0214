import ImportPolicy.Json.Reader
import ImportPolicy.Text.Lines
import ImportPolicy.Text.Utf8

/-! # Package manifests

* `Manifest.main?` — the main module that a manifest names. -/

namespace ImportPolicy.Manifest

/-- The main module in the bytes of a manifest: the text under `main`, if the bytes are a JSON
    object that has one and it is not empty. -/
def main? (content : List UInt8) : Option Text := do
  let chars ← Utf8.decode? content
  let value ← Json.parse? (Text.unifyNewlines chars)
  let entries ← value.mapping?
  let main ← (← entries.find? "main").text?
  if main.isEmpty then none else some main

end ImportPolicy.Manifest
