import MessageKeys.Json.Decode
import MessageKeys.Key.Fragment

/-!
# Fragments as JSON

A fragment is a record of its source, its value and its kind; only the source must be given. A
fragment without a kind is a literal, and the value of a literal does not count.

## Main definitions

* `MessageKeys.Fragment.ofJson?` — the fragment that a JSON value gives.
-/

namespace MessageKeys.Fragment

/-- The kinds of fragments. -/
inductive Kind where
  | literal
  | interpolated
  deriving DecidableEq, Repr

/-- The name of a kind. -/
def Kind.name : Kind → String
  | literal => "literal"
  | interpolated => "interpolated"

/-- The kind of a fragment. -/
def kind : Fragment → Kind
  | .literal _ => .literal
  | .interpolated _ _ => .interpolated

/-- The kind with a name. -/
def Kind.ofName? (name : String) : Option Kind :=
  [Kind.literal, Kind.interpolated].find? fun kind => kind.name == name

/-- A kind is given by its name, alone or as the name of the only member of an object, which is
`null`. -/
def Kind.ofJson? : Json → Option Kind
  | .string name => ofName? name
  | .object [(name, .null)] => ofName? name
  | _ => none

/-- The names of the fields, in the order in which an array gives them. -/
def fieldNames : List String := ["source", "resolved", "kind"]

/-- The fragment that a JSON value gives. -/
def ofJson? (value : Json) : Option Fragment := do
  let f ← Json.fields? fieldNames value
  let source ← f.get? "source" Json.text?
  let resolved? ← f.getD? ["resolved"] (Json.nullable? Json.text?) none
  match ← f.getD? ["kind"] Kind.ofJson? .literal with
  | .literal => return .literal source
  | .interpolated => return .interpolated source (resolved?.getD "")

end MessageKeys.Fragment
