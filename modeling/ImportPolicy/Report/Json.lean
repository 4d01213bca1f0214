import ImportPolicy.Json.Printer
import ImportPolicy.Snapshot.Value
import ImportPolicy.Text.Utf8

/-! # JSON report

* `Snapshot.report?`, `Snapshot.reportBytes?` — a snapshot as a JSON object. -/

namespace ImportPolicy

/-- Whether every text inside a value is free of lone surrogates. -/
def Text.isWellFormed (t : Text) : Bool := t.all fun c => c.char?.isSome

/-- The JSON of a snapshot; none if a text of it holds a lone surrogate, which JSON in UTF-8 cannot
    hold. -/
def Snapshot.report? (s : Snapshot) : Option Text :=
  let written := Json.render 0 s.toValue
  if written.isWellFormed then some written else none

/-- The bytes of a report. -/
def Snapshot.reportBytes? (s : Snapshot) : Option (List UInt8) := s.report?.bind Text.bytes?

end ImportPolicy
