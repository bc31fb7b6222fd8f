import MessageKeys.Pattern.Regex.Escape

/-!
# Bracketed sets in regular expressions

A set in brackets holds characters, ranges, classes and other sets, or, with `^` in front, all
characters but these. `&&`, `--` and `~~` stand between sets for the characters in both, in the
first only, and in one only; they are carried out from the left.

## Main definitions

* `MessageKeys.Regex.SetOp` — operations on sets.
* `MessageKeys.Regex.readBracket` — reads a set behind its opening bracket.
-/

namespace MessageKeys.Regex

/-- An operation on sets. -/
inductive SetOp where
  | inter
  | diff
  | symmDiff
  deriving DecidableEq, Repr

/-- The set that an operation makes of two. -/
def SetOp.apply : SetOp → CharSet → CharSet → CharSet
  | inter => .inter
  | diff => .diff
  | symmDiff => .symmDiff

/-- A set and how many sets are nested in it. -/
structure DeepSet where
  set : CharSet
  depth : Nat
  deriving Repr

/-- What has been read of a set. -/
structure OpenSet where
  /-- What stands before the last operation, and the operation. -/
  left? : Option (DeepSet × SetOp) := none
  /-- What stands behind it, the last one first. -/
  items : List DeepSet := []

namespace OpenSet

/-- The set with one more item. -/
def add (o : OpenSet) (item : DeepSet) : OpenSet := { o with items := item :: o.items }

/-- The items behind the last operation as one set. -/
def right (o : OpenSet) : DeepSet :=
  let depth := (o.items.map DeepSet.depth).foldl max 0
  ⟨.unions (o.items.reverse.map DeepSet.set), if 1 < o.items.length then depth + 1 else depth⟩

/-- All that has been read, as one set. -/
def close (f : Flags) (o : OpenSet) : DeepSet :=
  match o.left? with
  | none => o.right
  | some (left, op) =>
    ⟨op.apply (f.fold left.set) (f.fold o.right.set), max left.depth o.right.depth + 1⟩

/-- The set with an operation behind all that has been read. -/
def operate (f : Flags) (o : OpenSet) (op : SetOp) : OpenSet := ⟨some (o.close f, op), []⟩

end OpenSet

/-- Reads `:name:]`, the rest of the name of a set of ASCII characters behind its bracket. -/
def readAsciiSet (f : Flags) : List Char → Option (CharSet × List Char)
  | ':' :: cs =>
    let (negated, cs) := match cs with | '^' :: cs => (true, cs) | cs => (false, cs)
    match cs.dropWhile (· != ':') with
    | ':' :: ']' :: rest =>
      (asciiSet? (String.ofList (cs.takeWhile (· != ':')))).map fun s =>
        (if negated then .complement (f.fold s) else f.fold s, rest)
    | _ => none
  | _ => none

/-- Whether a set may be used: without Unicode it must hold ASCII characters only. -/
def isUsable (f : Flags) (s : CharSet) : Bool := f.unicode || !s.contains '\x80'

/-- Reads an item of a set: a character, or what an escape stands for. -/
def readSetAtom [Dialect] (f : Flags) : List Char → Option (Atom × List Char)
  | [] => none
  | '\\' :: cs => readEscape f cs
  | c :: cs => some (.char c false, cs)

/-- The set of an item. -/
def Atom.set? (f : Flags) : Atom → Option CharSet
  | char c _ => if f.unicode || c.toNat < 0x80 then some (.single c) else none
  | set s => some s
  | look _ => none

/-- The set of a range between two items. -/
def rangeSet? (f : Flags) : Atom → Atom → Option CharSet
  | .char first _, .char last _ =>
    if first ≤ last && (f.unicode || last.toNat < 0x80) then some (.range first last) else none
  | _, _ => none

/-- Reads an item of a set, or a range. -/
def readSetRange [Dialect] (f : Flags) (cs : List Char) : Option (CharSet × List Char) := do
  let (first, cs) ← readSetAtom f cs
  let cs := f.skip cs
  let alone : Option (CharSet × List Char) := (first.set? f).map fun s => (s, cs)
  match cs with
  | '-' :: rest =>
    match f.skip rest with
    | [] => none
    | c :: rest =>
      if c = ']' || c = '-' then alone
      else do
        let (last, rest) ← readSetAtom f (c :: rest)
        return (← rangeSet? f first last, rest)
  | [] => none
  | _ => alone

/-- Reads the hyphens at the start of a set, which stand for themselves. -/
def readHyphens (f : Flags) : (fuel : Nat) → OpenSet → List Char → OpenSet × List Char
  | fuel + 1, o, '-' :: cs => readHyphens f fuel (o.add ⟨.single '-', 0⟩) (f.skip cs)
  | _, o, cs => (o, cs)

/-- Reads the start of a set: whether it is negated, and the hyphens or the closing bracket that
stand for themselves there. -/
def readSetStart (f : Flags) (cs : List Char) : Bool × OpenSet × List Char :=
  let (negated, cs) :=
    match f.skip cs with
    | '^' :: cs => (true, f.skip cs)
    | cs => (false, cs)
  match readHyphens f cs.length {} cs with
  | (o, ']' :: rest) =>
    if o.items.isEmpty then (negated, o.add ⟨.single ']', 0⟩, f.skip rest)
    else (negated, o, ']' :: rest)
  | (o, cs) => (negated, o, cs)

/-- The set of all that was read between brackets. -/
def closeBracket? (f : Flags) (negated : Bool) (o : OpenSet) : Option DeepSet :=
  let closed := o.close f
  let s := f.fold closed.set
  let s := if negated then .complement s else s
  if isUsable f s then some ⟨s, closed.depth + 1⟩ else none

mutual

/-- Reads a set behind its opening bracket. -/
def readBracket [Dialect] (f : Flags) : (fuel : Nat) → List Char → Option (DeepSet × List Char)
  | 0, _ => none
  | fuel + 1, cs =>
    let (negated, o, cs) := readSetStart f cs
    readSetItems f fuel negated o cs

/-- Reads the items of a set up to its closing bracket. -/
def readSetItems [Dialect] (f : Flags) : (fuel : Nat) → (negated : Bool) → OpenSet → List Char →
    Option (DeepSet × List Char)
  | 0, _, _, _ => none
  | fuel + 1, negated, o, cs =>
    match f.skip cs with
    | [] => none
    | '[' :: cs =>
      match readAsciiSet f cs with
      | some (s, cs) =>
        if isUsable f s then readSetItems f fuel negated (o.add ⟨s, 0⟩) cs else none
      | none => do
        let (nested, cs) ← readBracket f fuel cs
        readSetItems f fuel negated (o.add nested) cs
    | ']' :: cs => (closeBracket? f negated o).map fun s => (s, cs)
    | '&' :: '&' :: cs => readSetItems f fuel negated (o.operate f .inter) cs
    | '-' :: '-' :: cs => readSetItems f fuel negated (o.operate f .diff) cs
    | '~' :: '~' :: cs => readSetItems f fuel negated (o.operate f .symmDiff) cs
    | cs => do
      let (s, cs) ← readSetRange f cs
      readSetItems f fuel negated (o.add ⟨s, 0⟩) cs

end

end MessageKeys.Regex
