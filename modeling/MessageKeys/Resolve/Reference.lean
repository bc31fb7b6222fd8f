import MessageKeys.Document.Tree

/-!
# References into a document

A key is followed into a document segment by segment, as far as it goes. A missing segment is no
error: everything from the first missing segment on is *unresolved*.

The last segment may also name a message in plural forms: where it has no child of its own, a child
whose name is the segment with one of the plural variants behind it is taken instead.

## Main definitions

* `MessageKeys.PluralRules` — how the names of plural forms are built.
* `MessageKeys.Reference` — how far a key goes in a document, and where.
* `MessageKeys.Tree.resolve` — the reference of a key.
* `MessageKeys.Tree.find?` — the node of a key that resolves completely.
* `MessageKeys.Tree.completions`, `MessageKeys.Tree.variants` — what can follow a key.
-/

namespace MessageKeys

/-- How the names of plural forms are built. -/
structure PluralRules where
  /-- What stands between a segment and a variant; if empty there are no plural forms. -/
  separator : String
  /-- The variants in the order in which they are tried. -/
  variants : List String
  deriving DecidableEq, Repr, Inhabited

namespace PluralRules

/-- The variants that are tried if nothing else is said. -/
def defaultVariants : List String :=
  ["zero", "one", "two", "few", "many", "other", "plural", "0", "1", "2", "3", "4", "5"]

/-- An underscore and the default variants. -/
def default : PluralRules := ⟨"_", defaultVariants⟩

/-- The names under which the plural forms of a segment may stand. -/
def names (rules : PluralRules) (segment : String) : List String :=
  if rules.separator.isEmpty then []
  else rules.variants.map fun variant => segment ++ rules.separator ++ variant

end PluralRules

/-- How far a key goes in a document. -/
structure Reference where
  /-- The segments that resolved, in order. -/
  path : List String
  /-- The last node reached. -/
  node : Tree
  /-- The segments from the first one that failed. -/
  unresolved : List String
  /-- Whether the last segment resolved to a plural form only. -/
  isPlural : Bool
  deriving Repr, Inhabited

/-- Whether the key goes all the way. -/
def Reference.isResolved (r : Reference) : Bool := r.unresolved.isEmpty

namespace Tree

/-- The first child that is a plural form of a segment. -/
def pluralChild? (rules : PluralRules) (t : Tree) (segment : String) : Option Tree :=
  (rules.names segment).findSome? t.child?

/-- The reference of a key below a node. -/
def resolve (rules : PluralRules) (node : Tree) : List String → Reference
  | [] => ⟨[], node, [], false⟩
  | segment :: rest =>
    match node.child? segment with
    | some child =>
      let below := child.resolve rules rest
      { below with path := segment :: below.path }
    | none =>
      match rest, node.pluralChild? rules segment with
      | [], some child => ⟨[segment], child, [], true⟩
      | _, _ => ⟨[], node, segment :: rest, false⟩

/-- The node of a key that resolves completely. -/
def find? (rules : PluralRules) (root : Tree) (key : List String) : Option Tree :=
  let r := root.resolve rules key
  if r.isResolved then some r.node else none

/-! ### Completion -/

/-- What is left of a name behind the text that is typed, if the name starts with it. -/
def remainder? (typed name : String) : Option String :=
  if typed.toList.isPrefixOf name.toList then
    some (String.ofList (name.toList.drop typed.toList.length))
  else none

/-- The remainders of the names of the children of `key` that start with `typed`. -/
def completions (rules : PluralRules) (root : Tree) (key : List String) (typed : String) :
    List String :=
  match root.find? rules key with
  | some node => node.childNames.filterMap (remainder? typed)
  | none => []

/-- What can follow a key. If its last segment is partially typed, it is not looked up
but completed; otherwise all children of the key are listed. -/
def variants (rules : PluralRules) (root : Tree) (key : List String) (isPartial : Bool) :
    List String :=
  match isPartial, key.getLast? with
  | true, some typed => root.completions rules key.dropLast typed
  | _, _ => root.completions rules key ""

end Tree

end MessageKeys
