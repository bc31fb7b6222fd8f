import MessageKeys.Pattern.CharSet

/-!
# Regular expressions

A regular expression describes pieces of texts. It is matched by *marks* on the places of a text,
which are the gaps between its characters and its two ends: matching moves every mark from where a
piece may start to all places where a piece from there may end. An expression occurs in a text if
some mark is left after the marks on all places were moved.

## Main definitions

* `MessageKeys.Look` — conditions on a place.
* `MessageKeys.Regex` — regular expressions.
* `MessageKeys.Regex.advance` — moves marks.
* `MessageKeys.Regex.occursIn` — whether an expression describes some piece of a text.
-/

namespace MessageKeys

/-- A condition on the characters around a place that has to do with words. -/
inductive WordEdge where
  | boundary
  | noBoundary
  | start
  | stop
  /-- No word before the place. -/
  | halfStart
  /-- No word behind the place. -/
  | halfStop
  deriving DecidableEq, Repr

/-- A condition on a place in a text. -/
inductive Look where
  | textStart
  | textEnd
  /-- With `crlf` a carriage return ends a line too, and so do both characters together. -/
  | lineStart (crlf : Bool)
  | lineEnd (crlf : Bool)
  | word (edge : WordEdge) (asciiOnly : Bool)
  deriving DecidableEq, Repr

namespace Look

/-- Whether there is a character of a word. -/
def isInWord (asciiOnly : Bool) (c? : Option Char) : Bool :=
  match c? with
  | some c => isWordChar c && !(asciiOnly && 0x80 ≤ c.toNat)
  | none => false

/-- Whether a condition holds between two characters, which are absent at the ends of a text. -/
def holds (before? after? : Option Char) : Look → Bool
  | textStart => before?.isNone
  | textEnd => after?.isNone
  | lineStart false => before?.isNone || before? == some '\n'
  | lineEnd false => after?.isNone || after? == some '\n'
  | lineStart true =>
    before?.isNone || before? == some '\n' || (before? == some '\r' && after? != some '\n')
  | lineEnd true =>
    after?.isNone || after? == some '\r' || (after? == some '\n' && before? != some '\r')
  | word edge asciiOnly =>
    let before := isInWord asciiOnly before?
    let after := isInWord asciiOnly after?
    match edge with
    | .boundary => before != after
    | .noBoundary => before == after
    | .start => !before && after
    | .stop => before && !after
    | .halfStart => !before
    | .halfStop => !after

end Look

/-- A regular expression. -/
inductive Regex where
  /-- The empty text. -/
  | empty
  /-- A character of a set. -/
  | chars (s : CharSet)
  /-- The empty text at places where a condition holds. -/
  | look (l : Look)
  /-- A piece of one expression and behind it a piece of the other. -/
  | seq (r s : Regex)
  /-- A piece of one of two expressions. -/
  | alt (r s : Regex)
  /-- At least `min` and at most `max?` pieces behind each other. -/
  | repetition (r : Regex) (min : Nat) (max? : Option Nat)
  deriving DecidableEq, Repr, Inhabited

namespace Regex

/-! ### Matching -/

/-- For each place of a text, from its start, whether it is marked. -/
abbrev Marks := List Bool

/-- The characters around each place of a text. -/
def around : (before? : Option Char) → List Char → List (Option Char × Option Char)
  | before?, [] => [(before?, none)]
  | before?, c :: cs => (before?, some c) :: around (some c) cs

/-- Moves marks over the characters of a set. -/
def step (s : CharSet) (text : List Char) (marks : Marks) : Marks :=
  false :: List.zipWith (fun c marked => marked && s.contains c) text marks

/-- Keeps the marks where a condition holds. -/
def keep (l : Look) (text : List Char) (marks : Marks) : Marks :=
  List.zipWith (fun marked (place : Option Char × Option Char) => marked && l.holds place.1 place.2)
    marks (around none text)

/-- The marks in one of two lists. -/
def merge (marks others : Marks) : Marks := List.zipWith (· || ·) marks others

/-- Moves marks `n` times, or until that changes nothing. -/
def moveTimes (move : Marks → Marks) : (n : Nat) → Marks → Marks
  | 0, marks => marks
  | n + 1, marks =>
    let moved := move marks
    if moved = marks then marks else moveTimes move n moved

/-- Moves marks from where a piece may start to where it may end. -/
def advance (text : List Char) : Regex → Marks → Marks
  | empty, marks => marks
  | chars s, marks => step s text marks
  | look l, marks => keep l text marks
  | seq r s, marks => s.advance text (r.advance text marks)
  | alt r s, marks => merge (r.advance text marks) (s.advance text marks)
  | repetition r min max?, marks =>
    let more := match max? with | some max => max - min | none => text.length + 1
    moveTimes (fun marks => merge marks (r.advance text marks)) more
      (moveTimes (r.advance text) min marks)

/-- The marks on all places of a text. -/
def everywhere (text : List Char) : Marks := List.replicate (text.length + 1) true

/-- Whether an expression describes some piece of a text. -/
def occursIn (r : Regex) (text : String) : Bool :=
  (r.advance text.toList (everywhere text.toList)).any id

end Regex

end MessageKeys
