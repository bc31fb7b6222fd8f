import MessageKeys.Config.Basic
import MessageKeys.Document.Catalog
import MessageKeys.Key.Basic
import MessageKeys.Resolve.Selection

/-!
# Looking up keys

A key is looked up in all documents of its namespace. What can follow a partly typed key is what can
follow it in some of them.

## Main definitions

* `MessageKeys.Config.namespaceOf` — the namespace of a key.
* `MessageKeys.Candidate` — a document with the reference of a key in it.
* `MessageKeys.Catalog.lookUp` — the candidates of a key.
* `MessageKeys.Catalog.complete` — what can follow a partly typed key.
-/

namespace MessageKeys

/-- The namespace of a key: the one that it names, or else the default one. -/
def Config.namespaceOf (config : Config) (k : Key) : String :=
  k.namespaceText?.getD config.defaultNamespace

/-- A document with the reference of a key in it. -/
structure Candidate where
  document : Document
  reference : Reference
  deriving Repr

namespace Catalog

/-- The documents of the namespace of a key, with its references in them. -/
def lookUp (catalog : Catalog) (config : Config) (k : Key) : List Candidate :=
  (catalog.candidates (config.namespaceOf k)).map fun document =>
    ⟨document, document.tree.resolve config.pluralRules k.segments⟩

/-- What can follow a key in each document of its namespace. -/
def variants (catalog : Catalog) (config : Config) (k : Key) (isPartial : Bool) :
    List (List String) :=
  (catalog.candidates (config.namespaceOf k)).map fun document =>
    document.tree.variants config.pluralRules k.segments isPartial

/-- What can follow a partly typed key, each possibility once. -/
def complete (catalog : Catalog) (config : Config) (typed : String) : List String :=
  (catalog.variants config (Key.parseLiteral config.separators typed) true).flatten.eraseDups

end Catalog

end MessageKeys
