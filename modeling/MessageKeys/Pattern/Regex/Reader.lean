import MessageKeys.Pattern.Regex.Bracket

/-!
# Reading regular expressions

An expression is a choice between sequences of repeated parts. A part is a character, a class, a
condition on a place, or a group in parentheses. A text is an expression only if all its groups and
sets are closed, nothing is missing where it is needed, and neither its depth nor its size is
excessive.

## Main definitions

* `MessageKeys.Regex.Node` — an expression with its depth.
* `MessageKeys.Regex.readChoice` — reads an expression up to the end of its group.
* `MessageKeys.Regex.ofText?` — the expression that a text writes.
-/

namespace MessageKeys.Regex

/-- An expression and how deep its parts are nested. -/
structure Node where
  regex : Regex
  depth : Nat
  deriving Repr, Inhabited

/-- The nodes of a sequence or a choice as one. -/
def Node.combine (op : Regex → Regex → Regex) : List Node → Node
  | [] => ⟨.empty, 0⟩
  | [n] => n
  | n :: ns =>
    ⟨(ns.map Node.regex).foldl op n.regex, ((n :: ns).map Node.depth).foldl max 0 + 1⟩

/-- A part of a sequence: an expression, or a place where flags are set. -/
inductive Part where
  | node (n : Node)
  | flags
  deriving Repr

/-- The node of a part. -/
def Part.toNode : Part → Node
  | node n => n
  | flags => ⟨.empty, 0⟩

/-- The node of a sequence of parts, the last one first. -/
def sequence (parts : List Part) : Node := Node.combine .seq (parts.reverse.map Part.toNode)

/-- The node of a choice between sequences, the last one first. -/
def choice (sequences : List Node) : Node := Node.combine .alt sequences.reverse

/-! ### Parts -/

/-- The expression of a part that is not a group, if the flags allow it. -/
def Atom.regex? (f : Flags) : Atom → Option Regex
  | char c byte =>
    if byte && !f.unicode && 0x80 ≤ c.toNat then none else some (.chars (f.fold (.single c)))
  | set s => some (.chars s)
  | look l => some (.look l)

/-- The characters that a dot stands for. -/
def dotSet (f : Flags) : CharSet :=
  if f.dotAll then .all
  else if f.crlf then .complement (.union (.single '\r') (.single '\n'))
  else .complement (.single '\n')

/-- Reads a part that is neither a group nor a set in brackets. -/
def readAtom [Dialect] (f : Flags) : List Char → Option (Regex × List Char)
  | [] => none
  | '\\' :: cs => do
    let (atom, cs) ← readEscape f cs
    return (← atom.regex? f, cs)
  | '.' :: cs => if f.unicode then some (.chars (dotSet f), cs) else none
  | '^' :: cs => some (.look (if f.multiLine then .lineStart f.crlf else .textStart), cs)
  | '$' :: cs => some (.look (if f.multiLine then .lineEnd f.crlf else .textEnd), cs)
  | c :: cs => some (.chars (f.fold (.single c)), cs)

/-! ### Repetitions -/

/-- How often a part is repeated. -/
structure Count where
  min : Nat
  max? : Option Nat
  deriving DecidableEq, Repr

/-- Reads decimal digits. -/
def readDigits (f : Flags) : (fuel : Nat) → (value? : Option Nat) → List Char →
    Option Nat × List Char
  | fuel + 1, value?, c :: cs =>
    if c.isDigit then
      readDigits f fuel (some (value?.getD 0 * 10 + (c.toNat - 48))) (f.skip cs)
    else (value?, c :: cs)
  | _, value?, cs => (value?, cs)

/-- Reads a number of 32 bits with blanks around it. -/
def readCountNumber (f : Flags) (cs : List Char) : Option (Nat × List Char) :=
  match readDigits f cs.length none (cs.dropWhile isBlankChar) with
  | (some n, cs) => if n < Nat.pow 2 32 then some (n, f.skip (cs.dropWhile isBlankChar)) else none
  | (none, _) => none

/-- Skips a question mark, which makes a repetition prefer fewer parts. -/
def skipLazy : List Char → List Char
  | '?' :: cs => cs
  | cs => cs

/-- Reads `min}`, `min,}` or `min,max}`. -/
def readCount (f : Flags) (cs : List Char) : Option (Count × List Char) := do
  let (min, cs) ← readCountNumber f (f.skip cs)
  let (count, cs) ←
    match cs with
    | ',' :: cs =>
      match f.skip cs with
      | '}' :: cs => some (Count.mk min none, '}' :: cs)
      | cs => do
        let (max, cs) ← readCountNumber f cs
        if max < min then none else some (Count.mk min (some max), cs)
    | cs => some (Count.mk min (some min), cs)
  match cs with
  | '}' :: cs => return (count, skipLazy (f.skip cs))
  | _ => none

/-- The sequence whose last part is repeated; there must be one that is an expression. -/
def repeatLast (count : Count) : List Part → Option (List Part)
  | .node n :: parts =>
    some (.node ⟨.repetition n.regex count.min count.max?, n.depth + 1⟩ :: parts)
  | _ => none

/-! ### Groups -/

/-- The start of a group. -/
inductive Opening where
  /-- No group: flags for what follows. -/
  | flags (letters : List Char)
  /-- A group with flags of its own. -/
  | group (letters : List Char)
  /-- A group with a name. -/
  | named (name : String)
  deriving DecidableEq, Repr

/-- Whether a character can stand in the name of a group. -/
def isGroupNameChar (isFirst : Bool) (c : Char) : Bool :=
  c == '_' || isAlphabetic c ||
    (!isFirst && (c == '.' || c == '[' || c == ']' || hasKind 'N' c))

/-- Reads the name of a group up to a closing angle bracket. -/
def readGroupName (cs : List Char) : Option (String × List Char) :=
  match cs.takeWhile (· != '>'), cs.dropWhile (· != '>') with
  | first :: name, _ :: cs =>
    if isGroupNameChar true first && name.all (isGroupNameChar false) then
      some (String.ofList (first :: name), cs)
    else none
  | _, _ => none

/-- Reads the flags at the start of a group. -/
def readFlagOpening (cs : List Char) : Option (Opening × List Char) :=
  match readFlags [] cs with
  | some ([], ')' :: _) => none
  | some (letters, ')' :: cs) => some (.flags letters, cs)
  | some (letters, _ :: cs) => some (.group letters, cs)
  | _ => none

/-- Reads the start of a group behind its parenthesis. There are no conditions on what stands before
or behind a place. -/
def readOpening : List Char → Option (Opening × List Char)
  | '?' :: 'P' :: '<' :: cs => (readGroupName cs).map fun (name, cs) => (.named name, cs)
  | '?' :: '<' :: cs =>
    match cs with
    | '=' :: _ | '!' :: _ => none
    | cs => (readGroupName cs).map fun (name, cs) => (.named name, cs)
  | '?' :: cs => readFlagOpening cs
  | cs => some (.group [], cs)

/-! ### Expressions -/

/-- What has been read of a choice. -/
structure OpenChoice where
  flags : Flags
  /-- The sequences before the last bar, the last one first. -/
  sequences : List Node := []
  /-- The parts of the sequence behind it, the last one first. -/
  parts : List Part := []

namespace OpenChoice

/-- The choice with one more part. -/
def add (o : OpenChoice) (n : Node) : OpenChoice := { o with parts := .node n :: o.parts }

/-- The choice with a bar behind all that has been read. -/
def bar (o : OpenChoice) : OpenChoice :=
  { o with sequences := sequence o.parts :: o.sequences, parts := [] }

/-- All that has been read, as one expression. -/
def close (o : OpenChoice) : Node := choice (sequence o.parts :: o.sequences)

/-- The choice whose last part is repeated. -/
def repeatLast? (o : OpenChoice) (count : Count) : Option OpenChoice :=
  (repeatLast count o.parts).map fun parts => { o with parts }

end OpenChoice

/-- An expression, the names of the groups read so far, and the rest of the text. -/
structure ReadChoice where
  node : Node
  names : List String
  rest : List Char

/-- Reads an expression up to the parenthesis that closes its group, or up to the end of the text if
it is in none. -/
def readChoice [Dialect] : (fuel : Nat) → (inGroup : Bool) → OpenChoice → (names : List String) →
    List Char → Option ReadChoice
  | 0, _, _, _, _ => none
  | fuel + 1, inGroup, o, names, cs =>
    let f := o.flags
    match f.skip cs with
    | [] => if inGroup then none else some ⟨o.close, names, []⟩
    | ')' :: cs => if inGroup then some ⟨o.close, names, cs⟩ else none
    | '|' :: cs => readChoice fuel inGroup o.bar names cs
    | '(' :: cs =>
      match readOpening (f.skip cs) with
      | none => none
      | some (.flags letters, cs) =>
        let o := { o with flags := f.setAll true letters, parts := .flags :: o.parts }
        readChoice fuel inGroup o names cs
      | some (opening, cs) => do
        let (letters, names) ←
          match opening with
          | .named name => if names.contains name then none else some ([], name :: names)
          | .group letters | .flags letters => some (letters, names)
        let inner ← readChoice fuel true ⟨f.setAll true letters, [], []⟩ names cs
        let o := o.add ⟨inner.node.regex, inner.node.depth + 1⟩
        readChoice fuel inGroup o inner.names inner.rest
    | '[' :: cs => do
      let (s, cs) ← readBracket f (2 * cs.length + 2) cs
      readChoice fuel inGroup (o.add ⟨.chars s.set, s.depth⟩) names cs
    | '?' :: cs => do
      readChoice fuel inGroup (← o.repeatLast? ⟨0, some 1⟩) names (skipLazy cs)
    | '*' :: cs => do
      readChoice fuel inGroup (← o.repeatLast? ⟨0, none⟩) names (skipLazy cs)
    | '+' :: cs => do
      readChoice fuel inGroup (← o.repeatLast? ⟨1, none⟩) names (skipLazy cs)
    | '{' :: cs => do
      let (count, cs) ← readCount f cs
      readChoice fuel inGroup (← o.repeatLast? count) names cs
    | cs => do
      let (r, cs) ← readAtom f cs
      readChoice fuel inGroup (o.add ⟨r, 0⟩) names cs

/-- The depth to which the parts of an expression may be nested. -/
def depthBound : Nat := 250

/-- The expression that a text writes. -/
def ofText? [Dialect] (text : String) : Option Regex := do
  let read ← readChoice (text.length + 1) false ⟨{}, [], []⟩ [] text.toList
  if read.node.depth ≤ depthBound && Dialect.fits read.node.regex then some read.node.regex
  else none

end MessageKeys.Regex
