import ImportPolicy.Proofs.FileTree.Overwriting
import ImportPolicy.Proofs.Resolve.Shadowing

/-! # What a lookup reads

A lookup asks which entries are files and which are directories, and it reads manifests. In a tree
without links, a file under another name can be written anew without a trace in any lookup.

* `Importer.afterWriting` — the importing file in the tree afterwards.
* `Importer.questions_afterWriting` — the questions about a specifier stay the same.
* `Importer.resolver_afterWriting` — and so does what it stands for. -/

namespace ImportPolicy.Importer

variable {i : Importer} {place : Location}

/-- The same importing file after a file has been written. -/
def afterWriting (i : Importer) (place : Location) (written : List UInt8) : Importer :=
  i.inTree (i.tree.overwrite place written)

variable (i place) (written : List UInt8)

theorem isFile_afterWriting (p : Path) : (i.afterWriting place written).isFile p = i.isFile p :=
  congrArg (Except.mapError _) (FileTree.isFile_overwrite i.tree place written [] p)

theorem isDirectory_afterWriting (p : Path) :
    (i.afterWriting place written).isDirectory p = i.isDirectory p :=
  congrArg (Except.mapError _) (FileTree.isDirectory_overwrite i.tree place written [] p)

theorem isFolder_afterWriting (p : Path) :
    (i.afterWriting place written).isFolder p = i.isFolder p := by
  unfold isFolder afterWriting inTree
  rw [FileTree.reach_overwrite]
  rcases i.tree.reach [] p with _ | ⟨l, _ | _⟩ <;> rfl

theorem realPath_afterWriting (p : Path) :
    (i.afterWriting place written).realPath p = i.realPath p := by
  unfold realPath afterWriting inTree
  rw [FileTree.realLocation_overwrite]

theorem ask_afterWriting (q : Question) : (i.afterWriting place written).ask q = i.ask q := by
  cases q <;> simp only [ask, fileAt, isFile_afterWriting, isDirectory_afterWriting]

theorem search_afterWriting (qs : List Question) :
    (i.afterWriting place written).search qs = i.search qs := by
  induction qs with
  | nil => rfl
  | cons q qs inductionHypothesis =>
    rw [search_cons, search_cons, ask_afterWriting, inductionHypothesis]

variable {i place} (linkFree : i.tree.LinkFree) (noManifest : place.getLast? ≠ some "package.json")
include linkFree noManifest

/-- A manifest is read where it stands, so that a file of another name is none. -/
theorem mainOf_afterWriting (p : Path) :
    (i.afterWriting place written).mainOf p = i.mainOf p := by
  unfold mainOf
  rw [Path.join_manifest]
  have avoids : ¬ i.tree.LeadsTo [] (p.child "package.json") place := fun leads =>
    noManifest (FileTree.leadsTo_child linkFree (by decide) (by decide) leads)
  exact congrArg (·.bind Manifest.main?) (FileTree.read?_overwrite avoids)

theorem questions_afterWriting (specifier : Text) :
    (i.afterWriting place written).questions specifier = i.questions specifier := by
  have asFile (p : Path) : (i.afterWriting place written).fileQuestions p = i.fileQuestions p := rfl
  have asIndex (p : Path) :
      (i.afterWriting place written).indexQuestions p = i.indexQuestions p := by
    rw [indexQuestions, indexQuestions, isFolder_afterWriting]
    rfl
  have asDirectory (p : Path) :
      (i.afterWriting place written).directoryQuestions p = i.directoryQuestions p := by
    rw [directoryQuestions, directoryQuestions, isFolder_afterWriting,
      mainOf_afterWriting written linkFree noManifest]
    simp only [asFile, asIndex]
  have asTarget (p : Path) : (i.afterWriting place written).loadQuestions p = i.loadQuestions p := by
    rw [loadQuestions, loadQuestions, asFile, asDirectory]
  have inFolders : (i.afterWriting place written).folderQuestions = i.folderQuestions := by
    funext specifier folder
    rw [folderQuestions, folderQuestions, isFolder_afterWriting, asTarget]
  rw [questions, questions, asDirectory, asTarget, inFolders]
  rfl

theorem resolver_afterWriting : (i.afterWriting place written).resolver = i.resolver := by
  have resolve (specifier : Text) :
      (i.afterWriting place written).resolve specifier = i.resolve specifier := by
    have real : (i.afterWriting place written).realPath = i.realPath :=
      funext (realPath_afterWriting i place written)
    rw [Importer.resolve, Importer.resolve, locate_eq_search, locate_eq_search,
      questions_afterWriting written linkFree noManifest, search_afterWriting, real]
    rfl
  rw [resolver, resolver, funext resolve]
  rfl

end ImportPolicy.Importer
