import MessageKeys.Json.Basic
import MessageKeys.Yaml.Basic

/-!
# Message trees

A document of messages is a tree: a mapping of names to nodes is a branch, and anything else is a
leaf. JSON and YAML documents become the same kind of tree, so that documents of both formats can
be looked up side by side. A leaf keeps the text that it shows as a message: a string, a number or
a truth value has one, and so has a list of strings, which is read as a whole.

In YAML tags are looked through, on values and on the names of a mapping. Names that are neither
strings nor numbers nor truth values have no text, and their entries are passed over.

## Main definitions

* `MessageKeys.Tree` — message trees.
* `MessageKeys.Tree.child?`, `MessageKeys.Tree.children`, `MessageKeys.Tree.childNames`.
* `MessageKeys.Json.tree`, `MessageKeys.Yaml.tree` — the trees of documents.
-/

namespace MessageKeys

/-- A node of a document of messages. -/
inductive Tree where
  /-- A node without children, with the text that it shows. -/
  | leaf (value? : Option String)
  /-- A node with named children, in the order of the document. -/
  | branch (children : List (String × Tree))
  deriving Repr, Inhabited

namespace Tree

/-- Whether the node can have children. -/
def isBranch : Tree → Bool
  | leaf _ => false
  | branch _ => true

/-- Whether the node cannot have children. -/
def isLeaf (t : Tree) : Bool := !t.isBranch

/-- The text that the node shows as a message. -/
def value? : Tree → Option String
  | leaf value? => value?
  | branch _ => none

/-- The children with their names, in the order of the document. -/
def children : Tree → List (String × Tree)
  | leaf _ => []
  | branch children => children

/-- The names of the children, in the order of the document. -/
def childNames (t : Tree) : List String := t.children.map Prod.fst

/-- The first child of this name. -/
def child? (t : Tree) (name : String) : Option Tree := t.children.lookup name

@[simp] theorem child?_leaf (value? : Option String) (name : String) :
    (leaf value?).child? name = none := rfl

@[simp] theorem children_leaf (value? : Option String) : (leaf value?).children = [] := rfl

@[simp] theorem children_branch (children : List (String × Tree)) :
    (branch children).children = children := rfl

end Tree

/-- The text of a list of strings. -/
def listText (items : List String) : String := String.intercalate ", " items

/-! ### JSON documents -/

namespace Json

/-- The text of a string. -/
def stringText? : Json → Option String
  | string text => some text
  | _ => none

mutual

/-- The tree of a JSON document. -/
def tree : Json → Tree
  | null => .leaf none
  | bool value => .leaf (some (if value then "true" else "false"))
  | number value => .leaf (some value.text)
  | string text => .leaf (some text)
  | array items => .leaf ((items.mapM stringText?).map listText)
  | object members => .branch (memberTrees members)
  | unvalued => .leaf none

/-- The trees of the members of an object. -/
def memberTrees : List (String × Json) → List (String × Tree)
  | [] => []
  | (name, value) :: members => (name, value.tree) :: memberTrees members

end

end Json

/-! ### YAML documents -/

namespace Yaml

/-- The text of a name in a mapping. -/
def nameText? : Yaml → Option String
  | string text => some text
  | number value => some value.text
  | bool value => some (if value then "true" else "false")
  | tagged _ value => nameText? value
  | _ => none

/-- The text of a string, looked through tags. -/
def stringText? : Yaml → Option String
  | string text => some text
  | tagged _ value => stringText? value
  | _ => none

mutual

/-- The tree of a YAML document. -/
def tree : Yaml → Tree
  | null => .leaf none
  | bool value => .leaf (some (if value then "true" else "false"))
  | number value => .leaf (some value.text)
  | string text => .leaf (some text)
  | sequence items => .leaf ((items.mapM stringText?).map listText)
  | mapping entries => .branch (entryTrees entries)
  | tagged _ value => tree value

/-- The trees of the entries of a mapping whose names have a text. -/
def entryTrees : List (Yaml × Yaml) → List (String × Tree)
  | [] => []
  | (name, value) :: entries =>
    match nameText? name with
    | some text => (text, value.tree) :: entryTrees entries
    | none => entryTrees entries

end

end Yaml

end MessageKeys
