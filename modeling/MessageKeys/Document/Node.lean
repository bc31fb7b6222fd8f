import MessageKeys.Document.Format
import MessageKeys.Pattern.Name

/-!
# Nodes of documents

A document is a value in its own format, and so is every node of it. A node is looked into as the
format has it: in an object the value under a name is asked for, and in a mapping the entries are
gone through until the text of a name is found. The children whose names are meant are listed in the
order of the document. In YAML tags are looked through, entries whose names have no text are passed
over, and several names may have the same text.

## Main definitions

* `MessageKeys.Json.member?`, `MessageKeys.Json.membersWith` — members of an object.
* `MessageKeys.Yaml.entry?`, `MessageKeys.Yaml.entriesWith` — entries of a mapping.
* `MessageKeys.DocumentNode` — a node of a document of either format, with `DocumentNode.child?` and
  `DocumentNode.childrenWith`.
* `MessageKeys.DocumentNode.tree` — the node as a message tree.
-/

namespace MessageKeys

/-! ### JSON values -/

namespace Json

/-- Whether the value is an object. -/
def isObject : Json → Bool
  | object _ => true
  | _ => false

/-- The value under a name in an object. -/
def member? (name : String) : Json → Option Json
  | object members => members.lookup name
  | _ => none

/-- The members of an object whose names are meant. -/
def membersWith (pattern : NamePattern) : Json → List (String × Json)
  | object members => members.filter fun member => pattern.admits member.1
  | _ => []

end Json

/-! ### YAML values -/

namespace Yaml

/-- Whether the value is a mapping, under any tags. -/
def isMapping (y : Yaml) : Bool :=
  match y.untagged with
  | mapping _ => true
  | _ => false

/-- The value of the first entry whose name has this text. -/
def entry? (name : String) (y : Yaml) : Option Yaml :=
  match y.untagged with
  | mapping entries => (entries.find? fun entry => entry.1.nameText? == some name).map Prod.snd
  | _ => none

/-- An entry under the text of its name, if that has one. -/
def named? (entry : Yaml × Yaml) : Option (String × Yaml) :=
  entry.1.nameText?.map fun text => (text, entry.2)

/-- The entries whose names have a text that is meant, under these texts. -/
def entriesWith (pattern : NamePattern) (y : Yaml) : List (String × Yaml) :=
  match y.untagged with
  | mapping entries => (entries.filterMap named?).filter fun entry => pattern.admits entry.1
  | _ => []

end Yaml

/-! ### Nodes of both formats -/

/-- A node of a document: a value in the format of the document. -/
inductive DocumentNode where
  | json (value : Json)
  | yaml (value : Yaml)
  deriving Repr

namespace DocumentNode

/-- The format of the document. -/
def format : DocumentNode → Format
  | json _ => .json
  | yaml _ => .yaml

/-- The node as a message tree. -/
def tree : DocumentNode → Tree
  | json value => value.tree
  | yaml value => value.tree

/-- Whether the node can have children. -/
def isBranch : DocumentNode → Bool
  | json value => value.isObject
  | yaml value => value.isMapping

/-- The child that is found under a name. -/
def child? (name : String) : DocumentNode → Option DocumentNode
  | json value => (value.member? name).map json
  | yaml value => (value.entry? name).map yaml

/-- The children whose names are meant, in the order of the document. -/
def childrenWith (pattern : NamePattern) : DocumentNode → List (String × DocumentNode)
  | json value => (value.membersWith pattern).map (Prod.map id json)
  | yaml value => (value.entriesWith pattern).map (Prod.map id yaml)

/-- The names of the children, in the order of the document. -/
def names (n : DocumentNode) : List String := (n.childrenWith .any).map Prod.fst

end DocumentNode

end MessageKeys
