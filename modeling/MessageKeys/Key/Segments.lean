import MessageKeys.Key.Fragment

/-!
# Segments of a key expression

The tokens of a key expression are collected from left to right. The state `Segments` holds the
tokens that are closed and the one that is open; a token is a text together with the number of
source characters that it spans.

The first namespace separator that counts is the *boundary* of the expression: before it lies the
namespace, after it the path. A namespace separator in a literal fragment counts before any in an
interpolated value, wherever the two stand.

Each character of a literal is charged to the token that receives it. An interpolated fragment is
charged as a whole to one token, the first that receives text from it, or else the token that is
open when the fragment ends; every separator that its value contributes is taken out of that
charge, so that the lengths of tokens and separators still add up to the source.

## Main definitions

* `MessageKeys.Separators` — the two separators of a key.
* `MessageKeys.Boundary.find?` — the place of the boundary in a list of fragments.
* `MessageKeys.Segments` — tokens under construction, with `receive`, `closeToken`,
  `closeNamespace` and `charge`.
* `MessageKeys.Segments.feedAll` — all fragments in order.
-/

namespace MessageKeys

/-- The separators of a key: `namespace<ns>segment<key>segment`. -/
structure Separators where
  /-- Ends the namespace. -/
  ns : Char := ':'
  /-- Stands between two segments of the path. -/
  key : Char := '.'
  deriving DecidableEq, Repr, Inhabited

/-- A namespace or path segment and the number of source characters it spans. -/
structure Token where
  text : String
  length : Nat
  deriving DecidableEq, Repr, Inhabited

namespace Token

/-- The token without text. -/
def empty : Token := ⟨"", 0⟩

/-- The token with one more character, which counts for `width` source characters. -/
def receive (t : Token) (c : Char) (width : Nat) : Token := ⟨t.text.push c, t.length + width⟩

/-- The source characters of some tokens. -/
def lengths : List Token → Nat
  | [] => 0
  | t :: ts => t.length + lengths ts

/-- The token with `n` more source characters. -/
def charge (t : Token) (n : Nat) : Token := { t with length := t.length + n }

end Token

/-! ### The boundary -/

/-- The place of the namespace separator: a fragment and a character of its resolved text, both
counted from zero. -/
structure Boundary where
  fragment : Nat
  position : Nat
  deriving DecidableEq, Repr

namespace Boundary

/-- The first separator in the resolved text of a fragment that satisfies `counts`. -/
def first? (ns : Char) (counts : Fragment → Bool) : List Fragment → Option Boundary
  | [] => none
  | f :: fs =>
    match if counts f then f.resolved.toList.idxOf? ns else none with
    | some position => some ⟨0, position⟩
    | none => (first? ns counts fs).map fun b => { b with fragment := b.fragment + 1 }

/-- The boundary of a list of fragments: a separator in a literal takes precedence over one in an
interpolated value. -/
def find? (ns : Char) (fragments : List Fragment) : Option Boundary :=
  first? ns Fragment.isLiteral fragments <|> first? ns (fun f => !f.isLiteral) fragments

/-- The position of the boundary in the fragment at hand, if it lies there. -/
def here? : Boundary → Option Nat
  | ⟨0, position⟩ => some position
  | ⟨_ + 1, _⟩ => none

/-- The boundary as seen from the next fragment, if it lies ahead. -/
def later? : Boundary → Option Boundary
  | ⟨0, _⟩ => none
  | ⟨n + 1, position⟩ => some ⟨n, position⟩

end Boundary

/-! ### Tokens under construction -/

/-- The tokens found so far: the closed ones, oldest first, and the open one. -/
structure Segments where
  closed : List Token
  current : Token
  /-- Whether key separators count: after the boundary, or everywhere if there is none. -/
  inPath : Bool
  /-- Whether the oldest token is the namespace. -/
  hasNamespace : Bool
  deriving DecidableEq, Repr

namespace Segments

/-- No text yet: one open, empty token. -/
def start (inPath : Bool) : Segments := ⟨[], Token.empty, inPath, false⟩

/-- All tokens, oldest first; the last one is open. -/
def tokens (s : Segments) : List Token := s.closed ++ [s.current]

/-- The index of the open token. -/
def openIndex (s : Segments) : Nat := s.closed.length

/-- Adds a character to the open token, at a width of `width` source characters. -/
def receive (s : Segments) (c : Char) (width : Nat) : Segments :=
  { s with current := s.current.receive c width }

/-- Closes the open token and opens the next. -/
def closeToken (s : Segments) : Segments :=
  { s with closed := s.tokens, current := Token.empty }

/-- Closes the open token as the namespace; the path begins. -/
def closeNamespace (s : Segments) : Segments :=
  { s.closeToken with inPath := true, hasNamespace := true }

/-- Charges `n` source characters to the token at `index`. -/
def charge (s : Segments) (index n : Nat) : Segments :=
  if index < s.closed.length then { s with closed := s.closed.modify index (·.charge n) }
  else { s with current := s.current.charge n }

/-- The namespace, if there is one, and the path. -/
def finish (s : Segments) : Option Token × List Token :=
  match s.hasNamespace, s.closed with
  | true, ns :: path => (some ns, path ++ [s.current])
  | _, _ => (none, s.tokens)

/-! ### Literal text -/

/-- Feeds the characters of a literal; `boundary?` counts the characters ahead of the boundary if
it lies in this text. -/
def feedLiteral (key : Char) : Option Nat → List Char → Segments → Segments
  | _, [], s => s
  | some 0, _ :: cs, s => feedLiteral key none cs s.closeNamespace
  | boundary?, c :: cs, s =>
    feedLiteral key (boundary?.map (· - 1)) cs
      (if s.inPath && c == key then s.closeToken else s.receive c 1)

/-! ### Interpolated values -/

/-- An interpolated value being fed: the tokens, the number of separators that the value has
contributed, and the first token that received text from it. -/
structure Feed where
  segments : Segments
  cuts : Nat
  charged? : Option Nat
  deriving DecidableEq, Repr

/-- Feeds the characters of an interpolated value. A key separator that opens the value is
swallowed if the open token is still empty: it would only repeat the separator before it. -/
def feedValue (key : Char) : (atStart : Bool) → Option Nat → List Char → Feed → Feed
  | _, _, [], feed => feed
  | _, some 0, _ :: cs, ⟨s, cuts, charged?⟩ =>
    feedValue key false none cs ⟨s.closeNamespace, cuts + 1, charged?⟩
  | atStart, boundary?, c :: cs, ⟨s, cuts, charged?⟩ =>
    feedValue key false (boundary?.map (· - 1)) cs <|
      if s.inPath && c == key then
        if atStart && s.current.text.isEmpty then ⟨s, cuts, charged?⟩
        else ⟨s.closeToken, cuts + 1, charged?⟩
      else ⟨s.receive c 0, cuts, charged? <|> some s.openIndex⟩

/-- Feeds an interpolated fragment and charges its source to one token. -/
def feedInterpolated (key : Char) (boundary? : Option Nat) (sourceLength : Nat)
    (value : List Char) (s : Segments) : Segments :=
  let feed := feedValue key true boundary? value ⟨s, 0, none⟩
  feed.segments.charge (feed.charged?.getD feed.segments.openIndex) (sourceLength - feed.cuts)

/-! ### All fragments -/

/-- Feeds one fragment. -/
def feed (key : Char) (boundary? : Option Nat) (f : Fragment) (s : Segments) : Segments :=
  match f with
  | .literal text => feedLiteral key boundary? text.toList s
  | .interpolated source value => feedInterpolated key boundary? source.length value.toList s

/-- Feeds all fragments in order. -/
def feedAll (key : Char) : Option Boundary → List Fragment → Segments → Segments
  | _, [], s => s
  | boundary?, f :: fs, s =>
    feedAll key (boundary?.bind Boundary.later?) fs
      (feed key (boundary?.bind Boundary.here?) f s)

end Segments

end MessageKeys
