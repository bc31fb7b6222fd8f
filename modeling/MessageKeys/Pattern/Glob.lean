/-!
# Glob patterns

A glob pattern describes paths. `?` stands for any character, `*` for any text, and brackets for
one of the characters in them, or, with `!` behind the opening one, for any other; slashes are
characters like all others to them. `**` stands for any number of whole components, and must be a
component itself.

## Main definitions

* `MessageKeys.Glob` — a pattern with its text.
* `MessageKeys.Glob.ofText?` — reads a pattern; some texts are none.
* `MessageKeys.Glob.describes` — whether a text is described.
-/

namespace MessageKeys

namespace Glob

/-- One piece of a pattern. -/
inductive Piece where
  /-- The character itself. -/
  | char (c : Char)
  /-- Any character. -/
  | anyChar
  /-- A character of one of the ranges. -/
  | within (ranges : List (Char × Char))
  /-- A character of none of the ranges. -/
  | outside (ranges : List (Char × Char))
  /-- Any text. -/
  | anyText
  /-- Any number of whole components, each with the slash behind it, or all that is left. -/
  | anyComponents
  deriving DecidableEq, Repr

/-! ### Reading -/

/-- The ranges that stand between brackets: `a-z`, or a character alone. -/
def ranges : List Char → List (Char × Char)
  | first :: '-' :: last :: cs => (first, last) :: ranges cs
  | c :: cs => (c, c) :: ranges cs
  | [] => []

/-- Where the reader of a pattern stands. -/
inductive Place where
  /-- Between pieces, at the start of a component or not. -/
  | between (atStart : Bool)
  /-- Between brackets, behind these characters, the last one first. -/
  | inBrackets (negated : Bool) (content : List Char)

/-- Reads the pieces of a pattern. -/
def pieces? : Place → List Char → Option (List Piece)
  | .between _, [] => some []
  | .between _, '?' :: cs => (pieces? (.between false) cs).map (.anyChar :: ·)
  | .between true, ['*', '*'] => some [.anyComponents]
  | .between true, '*' :: '*' :: '/' :: cs =>
    (pieces? (.between true) cs).map (.anyComponents :: ·)
  | .between _, '*' :: '*' :: _ => none
  | .between _, '*' :: cs => (pieces? (.between false) cs).map (.anyText :: ·)
  | .between _, '[' :: '!' :: c :: cs => pieces? (.inBrackets true [c]) cs
  | .between _, '[' :: '!' :: [] => none
  | .between _, '[' :: c :: cs => pieces? (.inBrackets false [c]) cs
  | .between _, '[' :: [] => none
  | .between _, c :: cs => (pieces? (.between (c == '/')) cs).map (.char c :: ·)
  | .inBrackets _ _, [] => none
  | .inBrackets true content, ']' :: cs =>
    (pieces? (.between false) cs).map (.outside (ranges content.reverse) :: ·)
  | .inBrackets false content, ']' :: cs =>
    (pieces? (.between false) cs).map (.within (ranges content.reverse) :: ·)
  | .inBrackets negated content, c :: cs => pieces? (.inBrackets negated (c :: content)) cs

/-! ### Matching -/

/-- What is left of a text behind each of its slashes. -/
def tailsBehindSlash : List Char → List (List Char)
  | [] => []
  | c :: cs => if c = '/' then cs :: tailsBehindSlash cs else tailsBehindSlash cs

/-- Whether a character is in one of some ranges. -/
def isIn (c : Char) (ranges : List (Char × Char)) : Bool :=
  ranges.any fun (first, last) => first ≤ c && c ≤ last

/-- Whether a piece stands for a character. -/
def Piece.describes (c : Char) : Piece → Bool
  | char other => c == other
  | anyChar => true
  | within ranges => isIn c ranges
  | outside ranges => !isIn c ranges
  | anyText | anyComponents => false

/-- Whether pieces stand for a text, one behind the other. -/
def describe : List Piece → List Char → Bool
  | [], cs => cs.isEmpty
  | .anyText :: ps, cs => (List.range (cs.length + 1)).any fun n => describe ps (cs.drop n)
  | .anyComponents :: ps, cs =>
    describe ps cs || (tailsBehindSlash cs).any (describe ps) || describe ps []
  | _ :: _, [] => false
  | p :: ps, c :: cs => p.describes c && describe ps cs

end Glob

/-- A glob pattern. -/
structure Glob where
  text : String
  pieces : List Glob.Piece
  deriving DecidableEq, Repr

namespace Glob

/-- The pattern that a text writes. -/
def ofText? (text : String) : Option Glob :=
  (pieces? (.between true) text.toList).map fun pieces => ⟨text, pieces⟩

/-- Whether the pattern describes a text. -/
def describes (g : Glob) (text : String) : Bool := describe g.pieces text.toList

end Glob

end MessageKeys
