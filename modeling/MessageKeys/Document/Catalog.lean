import MessageKeys.Document.Basic
import MessageKeys.Pattern.Glob

/-!
# Catalogs of documents

All documents below a messages root, in the order of their paths. Files that cannot be loaded do not
keep the others from being loaded.

## Main definitions

* `MessageKeys.Catalog` — the documents, and the files that could not be loaded.
* `MessageKeys.Catalog.load` — the catalog of a messages root.
* `MessageKeys.Catalog.candidates` — the documents of a namespace.
* `MessageKeys.Catalog.namespaces` — all namespaces.
-/

namespace MessageKeys

/-- A file that could not be loaded. -/
structure LoadWarning where
  file : Path
  error : LoadError
  deriving Repr

/-- The documents below a messages root. -/
structure Catalog where
  documents : List Document
  warnings : List LoadWarning
  deriving Repr

namespace Catalog

/-- The catalog of some documents. -/
def ofDocuments (documents : List Document) : Catalog := ⟨documents, []⟩

/-- Whether some pattern describes the path of a file as seen from the messages root. -/
def isIgnored (ignores : List Glob) (root file : Path) : Bool :=
  ignores.any fun g => g.describes ((file.relativeTo? root).getD file).text

/-- The files that are to be loaded: those whose extension shows a format, unless they are
ignored. -/
def filesToLoad (files : Entry) (root : Path) (ignores : List Glob) : List Path :=
  match files.find root with
  | .ok entry =>
    (entry.filesBelow root).filter fun file => file.format?.isSome && !isIgnored ignores root file
  | .error _ => []

/-- The document in a file, or the warning that there is none. -/
def loadFile (files : Entry) (root file : Path) : Document ⊕ LoadWarning :=
  match Document.load files root file with
  | .ok document => .inl document
  | .error error => .inr ⟨file, error⟩

/-- The catalog of a messages root. -/
def load (files : Entry) (root : Path) (ignores : List Glob) : Except LoadError Catalog :=
  match files.find root with
  | .error _ => .error (.missingRoot root)
  | .ok (.directory _) =>
    let loaded := (filesToLoad files root ignores).map (loadFile files root)
    .ok ⟨loaded.filterMap Sum.getLeft?, loaded.filterMap Sum.getRight?⟩
  | .ok (.file _) | .ok (.link _) => .error (.rootNotDirectory root)

/-- The documents of a namespace. -/
def candidates (catalog : Catalog) (ns : String) : List Document :=
  catalog.documents.filter fun document => document.ns == ns

/-- The namespaces of the documents, in alphabetical order. -/
def namespaces (catalog : Catalog) : List String :=
  ((catalog.documents.map Document.ns).mergeSort fun x y => decide (x ≤ y)).eraseReps

/-- Whether there is no document. -/
def isEmpty (catalog : Catalog) : Bool := catalog.documents.isEmpty

end Catalog

end MessageKeys
