import MessageKeys.Pattern.Regex.Dialect
import MessageKeys.Pattern.Regex.Flags
import MessageKeys.Text.Digit

/-!
# Escapes in regular expressions

A backslash gives punctuation no meaning of its own, and letters one: characters by their code
points, classes, properties, and conditions on places. Letters and digits without such a meaning may
not stand behind a backslash.

## Main definitions

* `MessageKeys.Regex.Atom` — what an escape stands for.
* `MessageKeys.Regex.readEscape` — reads what stands behind a backslash.
-/

namespace MessageKeys.Regex

/-- What a single part of an expression stands for. -/
inductive Atom where
  /-- A character; `byte` if it was given as a byte. -/
  | char (c : Char) (byte : Bool)
  | set (s : CharSet)
  | look (l : Look)
  deriving DecidableEq, Repr

/-! ### Sets -/

/-- The sets of ASCII characters with a name. -/
def asciiSet? (name : String) : Option CharSet :=
  let upper : CharSet := .range 'A' 'Z'
  let lower : CharSet := .range 'a' 'z'
  let digit : CharSet := .range '0' '9'
  let alpha : CharSet := .union upper lower
  match name with
  | "alnum" => some (.union digit alpha)
  | "alpha" => some alpha
  | "ascii" => some (.range '\x00' '\x7f')
  | "blank" => some (.union (.single '\t') (.single ' '))
  | "cntrl" => some (.union (.range '\x00' '\x1f') (.single '\x7f'))
  | "digit" => some digit
  | "graph" => some (.range '!' '~')
  | "lower" => some lower
  | "print" => some (.range ' ' '~')
  | "punct" =>
    some (.unions [.range '!' '/', .range ':' '@', .range '[' (Char.ofNat 0x60), .range '{' '~'])
  | "space" => some (.union (.range '\t' '\r') (.single ' '))
  | "upper" => some upper
  | "word" => some (.unions [digit, alpha, .single '_'])
  | "xdigit" => some (.unions [digit, .range 'A' 'F', .range 'a' 'f'])
  | _ => none

/-- The set that is named by a letter; one in upper case names what is not in the set. -/
def letterSet? (f : Flags) (letter : Char) : Option CharSet :=
  let found? :=
    match letter.toLower with
    | 'd' =>
      if f.unicode then some (.property (.category .decimalNumber)) else asciiSet? "digit"
    | 's' => if f.unicode then some (.property .blank) else asciiSet? "space"
    | 'w' => if f.unicode then some (.property .word) else asciiSet? "word"
    | _ => none
  match found? with
  | some s =>
    if letter.isLower then some s else if f.unicode then some (.complement s) else none
  | none => none

/-- The set with case folded if case does not matter. -/
def Flags.fold (f : Flags) (s : CharSet) : CharSet :=
  if f.ignoreCase then .anyCase (!f.unicode) s else s

/-! ### Code points -/

/-- The character with a code point. -/
def charOf? (n : Nat) : Option Char := if n.isValidChar then some (Char.ofNat n) else none

/-- Reads `count` hexadecimal digits. -/
def readHexDigits (f : Flags) : (count value : Nat) → List Char → Option (Nat × List Char)
  | 0, value, cs => some (value, cs)
  | _ + 1, _, [] => none
  | count + 1, value, c :: cs => do
    let d ← hexDigit? c
    readHexDigits f count (value * 16 + d) (f.skip cs)

/-- Reads hexadecimal digits up to a closing brace. -/
def readBracedHex (f : Flags) : (fuel : Nat) → (value? : Option Nat) → List Char →
    Option (Nat × List Char)
  | 0, _, _ => none
  | _ + 1, _, [] => none
  | _ + 1, value?, '}' :: cs => value?.map fun value => (value, f.skip cs)
  | fuel + 1, value?, c :: cs => do
    let d ← hexDigit? c
    readBracedHex f fuel (some (value?.getD 0 * 16 + d)) (f.skip cs)

/-- Reads the code point behind a letter that takes `count` digits, or any number in braces. -/
def readCodePoint (f : Flags) (count : Nat) (cs : List Char) : Option (Atom × List Char) := do
  match f.skip cs with
  | '{' :: cs =>
    let (n, cs) ← readBracedHex f (cs.length + 1) none (f.skip cs)
    return (.char (← charOf? n) false, cs)
  | cs =>
    let (n, cs) ← readHexDigits f count 0 cs
    return (.char (← charOf? n) (count == 2), cs)

/-! ### Properties -/

/-- Reads the name of a property up to a closing brace. -/
def readName (f : Flags) : (fuel : Nat) → (name : List Char) → List Char →
    Option (List Char × List Char)
  | 0, _, _ => none
  | _ + 1, _, [] => none
  | _ + 1, name, '}' :: cs => some (name.reverse, cs)
  | fuel + 1, name, c :: cs => readName f fuel (c :: name) (f.skip cs)

/-- A name as the parts before and behind the first place where `mark` stands. -/
def splitAt? (mark : List Char) : List Char → Option (List Char × List Char)
  | [] => none
  | c :: cs =>
    if mark.isPrefixOf (c :: cs) then some ([], (c :: cs).drop mark.length)
    else (splitAt? mark cs).map fun (name, value) => (c :: name, value)

/-- The characters with the property that a name in braces gives, and whether it is negated. -/
def propertyOf? [Dialect] (name : List Char) : Option (CharSet × Bool) :=
  let valued (parts : List Char × List Char) :=
    Dialect.valued? (String.ofList parts.1) (String.ofList parts.2)
  match splitAt? ['!', '='] name with
  | some parts => (valued parts).map fun p => (p, true)
  | none =>
    match splitAt? [':'] name with
    | some parts => (valued parts).map fun p => (p, false)
    | none =>
      match splitAt? ['='] name with
      | some parts => (valued parts).map fun p => (p, false)
      | none => (Dialect.named? (String.ofList name)).map fun p => (p, false)

/-- Reads the property behind `p` or, negated, `P`. -/
def readProperty [Dialect] (f : Flags) (negated : Bool) (cs : List Char) :
    Option (Atom × List Char) := do
  let ((property, unequal), cs) ←
    match f.skip cs with
    | '{' :: cs => do
      let (name, cs) ← readName f (cs.length + 1) [] (f.skip cs)
      pure (← propertyOf? name, cs)
    | c :: cs =>
      if c = '\\' then none
      else do pure ((← Dialect.named? (String.singleton c), false), f.skip cs)
    | [] => none
  if !f.unicode then none
  let s := f.fold property
  return (.set (if negated != unequal then .complement s else s), cs)

/-! ### Word boundaries -/

/-- Whether a character can stand in the name of a word boundary. -/
def isEdgeNameChar (c : Char) : Bool := c.isAlpha || c == '-'

/-- Reads the name of a word boundary. -/
def readEdgeName (f : Flags) : (fuel : Nat) → List Char → List Char × List Char
  | fuel + 1, c :: cs =>
    if isEdgeNameChar c then
      let (name, cs) := readEdgeName f fuel (f.skip cs)
      (c :: name, cs)
    else ([], c :: cs)
  | _, cs => ([], cs)

/-- The word boundaries with a name. -/
def edgeOf? (name : List Char) : Option WordEdge :=
  match String.ofList name with
  | "start" => some .start
  | "end" => some .stop
  | "start-half" => some .halfStart
  | "end-half" => some .halfStop
  | _ => none

/-- Reads what stands behind `b`: the name of a word boundary in braces, or nothing. -/
def readBoundary (f : Flags) (cs : List Char) : Option (Atom × List Char) :=
  let plain := (Atom.look (.word .boundary (!f.unicode)), cs)
  match cs with
  | '{' :: rest =>
    match f.skip rest with
    | [] => none
    | c :: cs =>
      if isEdgeNameChar c then
        match readEdgeName f (cs.length + 1) (c :: cs) with
        | (name, '}' :: cs) => do return (.look (.word (← edgeOf? name) (!f.unicode)), cs)
        | _ => none
      else some plain
  | _ => some plain

/-! ### Escapes -/

/-- The characters with a meaning of their own somewhere in an expression. -/
def metaChars : List Char :=
  ['\\', '.', '+', '*', '?', '(', ')', '|', '[', ']', '{', '}', '^', '$', '#', '&', '-', '~']

/-- Whether a character stands for itself behind a backslash. -/
def isEscapable (c : Char) : Bool :=
  metaChars.contains c || (c.toNat < 0x80 && !c.isAlphanum && c != '<' && c != '>')

/-- Reads what stands behind a backslash. -/
def readEscape [Dialect] (f : Flags) : List Char → Option (Atom × List Char)
  | [] => none
  | c :: cs =>
    let look (l : Look) : Option (Atom × List Char) := some (.look l, cs)
    let char (c : Char) : Option (Atom × List Char) := some (.char c false, cs)
    match c with
    | 'x' => readCodePoint f 2 cs
    | 'u' => readCodePoint f 4 cs
    | 'U' => readCodePoint f 8 cs
    | 'p' => readProperty f false cs
    | 'P' => readProperty f true cs
    | 'a' => char '\x07'
    | 'f' => char '\x0c'
    | 't' => char '\t'
    | 'n' => char '\n'
    | 'r' => char '\r'
    | 'v' => char '\x0b'
    | 'A' => look .textStart
    | 'z' => look .textEnd
    | 'b' => readBoundary f cs
    | 'B' => look (.word .noBoundary (!f.unicode))
    | '<' => look (.word .start (!f.unicode))
    | '>' => look (.word .stop (!f.unicode))
    | c =>
      match letterSet? f c with
      | some s => some (.set s, cs)
      | none => if isEscapable c then char c else none

end MessageKeys.Regex
