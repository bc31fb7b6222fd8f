/-!
# Fragments of a key expression

A key expression such as the template `${area}:menu.${item}.title` is an ordered list of
*fragments*. A literal fragment is text that stands for itself. An interpolated fragment is an
expression of the surrounding program: its source as written, and the value that a best-effort
evaluation gave it.

## Main definitions

* `MessageKeys.Fragment` — one piece of a key expression.
* `MessageKeys.Fragment.source`, `MessageKeys.Fragment.resolved` — the text as written and the
  text that takes part in the key; they agree on literals.
* `MessageKeys.Fragment.sourceLength` — the number of source characters that a fragment spans.
-/

namespace MessageKeys

/-- One piece of a key expression. -/
inductive Fragment where
  /-- Text that stands for itself. -/
  | literal (text : String)
  /-- An expression, as written, with the value it was evaluated to. -/
  | interpolated (source value : String)
  deriving DecidableEq, Repr, Inhabited

namespace Fragment

/-- The text of the fragment as it is written in the expression. -/
def source : Fragment → String
  | literal text => text
  | interpolated source _ => source

/-- The text that the fragment contributes to the key. -/
def resolved : Fragment → String
  | literal text => text
  | interpolated _ value => value

/-- Whether the fragment stands for itself. -/
def isLiteral : Fragment → Bool
  | literal _ => true
  | interpolated _ _ => false

/-- The number of source characters that the fragment spans. -/
def sourceLength (f : Fragment) : Nat := f.source.length

@[simp] theorem source_literal (text : String) : (literal text).source = text := rfl

@[simp] theorem resolved_literal (text : String) : (literal text).resolved = text := rfl

@[simp] theorem source_interpolated (source value : String) :
    (interpolated source value).source = source := rfl

@[simp] theorem resolved_interpolated (source value : String) :
    (interpolated source value).resolved = value := rfl

end Fragment

end MessageKeys
