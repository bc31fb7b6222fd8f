import MessageKeys.Key.Segments

/-!
# Keys

A *key* addresses a message: an optional namespace, which selects the documents to look in, and a
path of segments, which is followed inside each of them. Reading a key never fails: an incomplete
expression such as `common:title.` is a key whose last segment is empty, because keys are also
read while they are being typed.

## Main definitions

* `MessageKeys.Key` — a key with the source it was read from.
* `MessageKeys.Key.parse`, `MessageKeys.Key.parseLiteral` — the key of a list of fragments, and of
  one literal.
* `MessageKeys.Key.segments` — the texts of the path.
* `MessageKeys.Key.text` — the key as evaluated, with its separators.
* `MessageKeys.Key.nsLength`, `MessageKeys.Key.keyLength`, `MessageKeys.Key.length` — lengths in
  source characters.
-/

namespace MessageKeys

/-- A key and the expression it was read from. -/
structure Key where
  /-- The token before the boundary; absent if the expression has no boundary. -/
  ns? : Option Token
  /-- The segments after the boundary. -/
  path : List Token
  /-- The source of all fragments in order. -/
  source : String
  /-- Whether some fragment is interpolated. -/
  isTemplate : Bool
  separators : Separators
  deriving DecidableEq, Repr

namespace Key

/-- The key that a list of fragments spells. -/
def parse (separators : Separators) (fragments : List Fragment) : Key :=
  let boundary? := Boundary.find? separators.ns fragments
  let found :=
    (Segments.feedAll separators.key boundary? fragments (Segments.start boundary?.isNone)).finish
  { ns? := found.1
    path := found.2
    source := String.join (fragments.map Fragment.source)
    isTemplate := fragments.any fun f => !f.isLiteral
    separators }

/-- The key that a single literal spells. -/
def parseLiteral (separators : Separators) (text : String) : Key :=
  parse separators [.literal text]

/-- Whether the key names its namespace. -/
def hasNamespace (k : Key) : Bool := k.ns?.isSome

/-- The text of the namespace, if the key names one. -/
def namespaceText? (k : Key) : Option String := k.ns?.map Token.text

/-- The texts of the path, as they are looked up in a document. -/
def segments (k : Key) : List String := k.path.map Token.text

/-- The evaluated key: namespace and path with their separators. -/
def text (k : Key) : String :=
  (match k.ns? with
    | some ns => ns.text.push k.separators.ns
    | none => "") ++
  String.intercalate (String.singleton k.separators.key) k.segments

/-! ### Lengths -/

/-- Source characters of the namespace. -/
def nsLength (k : Key) : Nat := (k.ns?.map Token.length).getD 0

/-- Source characters of the path, its separators included. -/
def keyLength (k : Key) : Nat := Token.lengths k.path + (k.path.length - 1)

/-- Source characters of the whole key. -/
def length (k : Key) : Nat :=
  k.nsLength + (if k.hasNamespace then 1 else 0) + k.keyLength

end Key

end MessageKeys
