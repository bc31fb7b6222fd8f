import MessageKeys.Document.Tree
import MessageKeys.Pattern.Regex.Reader

/-!
# Patterns of names

Which children of a node are meant: all of them, those whose names start with a text, or those that
a regular expression describes. A regular expression is put between the two ends of a name, as the
text of a group.

## Main definitions

* `MessageKeys.NamePattern` — patterns of names.
* `MessageKeys.NamePattern.regex?` — the pattern of a regular expression.
* `MessageKeys.NamePattern.admits` — whether a name is meant.
* `MessageKeys.Tree.childrenWith` — the children whose names are meant.
-/

namespace MessageKeys

/-- A pattern of names. -/
inductive NamePattern where
  | any
  | startsWith (start : String)
  | regex (r : Regex)
  deriving Repr

namespace NamePattern

/-- The text of a regular expression between the two ends of a name. -/
def wholeName (text : String) : String := "^(?:" ++ text ++ ")$"

/-- The pattern of a regular expression, if the text in place writes one. -/
def regex? [Regex.Dialect] (text : String) : Option NamePattern :=
  (Regex.ofText? (wholeName text)).map regex

/-- Whether a name is meant. -/
def admits (pattern : NamePattern) (name : String) : Bool :=
  match pattern with
  | any => true
  | startsWith start => start.toList.isPrefixOf name.toList
  | regex r => r.occursIn name

end NamePattern

/-- The children whose names are meant, in the order of the document. -/
def Tree.childrenWith (t : Tree) (pattern : NamePattern) : List (String × Tree) :=
  t.children.filter fun child => pattern.admits child.1

end MessageKeys
