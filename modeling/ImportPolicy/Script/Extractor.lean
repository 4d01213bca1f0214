import ImportPolicy.Script.Grammar
import ImportPolicy.Script.Imports

/-! # Reading sources one after another

An extractor reads sources in one language and has the trees of the source that it has read last.

* `Extractor.read`, `Extractor.sites` — reading a source, and the import sites of the last one.
* `Extractor.forLanguage`, `Extractor.keep` — the extractors of several languages. -/

namespace ImportPolicy.Script

/-- What reads sources in a language, with the trees of the last one. Before the first source there
    are none. -/
structure Extractor where
  language : Language
  trees : List Node := []

namespace Extractor

/-- Reads a source. Its trees take the place of the ones before. -/
def read (x : Extractor) (source : List Char) : Extractor :=
  { x with trees := parse x.language source }

/-- The import sites of the source that was read last. -/
def sites (x : Extractor) : Except Escape.Error (List ImportSite) := importSites x.trees

/-- The extractor for a language among some others, or a new one. -/
def forLanguage (kept : List Extractor) (l : Language) : Extractor :=
  (kept.find? fun x => x.language = l).getD { language := l }

/-- The extractors with one of them in place of the one that was there for its language. -/
def keep (kept : List Extractor) (x : Extractor) : List Extractor :=
  x :: kept.filter fun other => other.language ≠ x.language

theorem language_forLanguage (kept : List Extractor) (l : Language) :
    (forLanguage kept l).language = l := by
  unfold forLanguage
  cases found : kept.find? fun x => x.language = l with
  | none => rfl
  | some x => simpa using List.find?_some found

/-- What was read before leaves no trace in the import sites of a source. -/
theorem sites_read_forLanguage (kept : List Extractor) (l : Language) (source : List Char) :
    ((forLanguage kept l).read source).sites = importSites (parse l source) := by
  rw [sites, read, language_forLanguage]

end Extractor

end ImportPolicy.Script
