import MessageKeys.Key.Basic

/-!
# Spans of a key in its source

The parts of a key as ranges of characters of `Key.source`. The spans are laid out from the
lengths of the tokens, one character apart; a caller adds the offset of the expression in its own
document.

## Main definitions

* `MessageKeys.Span` — a half-open range of character positions.
* `MessageKeys.Key.fullSpan`, `MessageKeys.Key.namespaceSpan?`, `MessageKeys.Key.pathSpan`,
  `MessageKeys.Key.tokenSpan?` — the whole key and its parts.
* `MessageKeys.Key.unresolvedSpan` — everything from the first segment that failed.
-/

namespace MessageKeys

/-- The characters at `start`, `start + 1`, …, `stop - 1`. -/
structure Span where
  start : Nat
  stop : Nat
  deriving DecidableEq, Repr, Inhabited

/-- The number of characters in a span. -/
def Span.length (s : Span) : Nat := s.stop - s.start

namespace Key

/-- Where the path begins: behind the namespace and its separator. -/
def pathStart (k : Key) : Nat :=
  match k.ns? with
  | some ns => ns.length + 1
  | none => 0

/-- Where the path token at `index` begins: behind the tokens before it and their separators. -/
def tokenStart (k : Key) (index : Nat) : Nat :=
  k.pathStart + Token.lengths (k.path.take index) + (k.path.take index).length

/-- The whole key expression. -/
def fullSpan (k : Key) : Span := ⟨0, k.length⟩

/-- The namespace, without its separator. -/
def namespaceSpan? (k : Key) : Option Span := k.ns?.map fun ns => ⟨0, ns.length⟩

/-- Everything after the namespace separator. -/
def pathSpan (k : Key) : Span := ⟨k.pathStart, k.length⟩

/-- The path token at `index`, if there is one. -/
def tokenSpan? (k : Key) (index : Nat) : Option Span :=
  k.path[index]?.map fun t => ⟨k.tokenStart index, k.tokenStart index + t.length⟩

/-- From the first unresolved token to the end, if `resolved` tokens of the path resolved; empty,
at the end of the key, if all did. -/
def unresolvedSpan (k : Key) (resolved : Nat) : Span :=
  if resolved < k.path.length then ⟨k.tokenStart resolved, k.length⟩ else ⟨k.length, k.length⟩

end Key

end MessageKeys
