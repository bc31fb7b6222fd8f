import MessageKeys.Json.Error
import MessageKeys.Json.Numeral
import MessageKeys.Text.Digit

/-!
# Reading JSON text

A JSON text is read from the left. Where it fails, the place is the point that the reader has
reached, or, if the character ahead is the one that does not fit, one byte further.

A document is read in full: numbers must have a value, escaped surrogates must come in pairs, and
at most 127 arrays and objects may be nested. Where only some parts of a text matter, it is read
with skimming: a part that offends against these rules is `Json.unvalued`, and the reader goes on.

## Main definitions

* `MessageKeys.Json.Stop` — a failure and the rest of the text at its place.
* `MessageKeys.Json.Rigour` — reading in full, or skimming.
* `MessageKeys.Json.readNumber`, `MessageKeys.Json.readString`, `MessageKeys.Json.readValue`.
* `MessageKeys.Json.read` — a whole text.
* `MessageKeys.Json.readDocument` — a whole text, read in full, with repeated names merged.
-/

namespace MessageKeys.Json

/-- Whether parts without a value are errors. -/
inductive Rigour where
  | full
  | skimming
  deriving DecidableEq, Repr

/-- Why reading stopped, and where: `ahead` bytes into `rest`, or at the end of the text if that
is nearer. -/
structure Stop where
  cause : Cause
  rest : List Char
  ahead : Nat
  deriving DecidableEq, Repr

/-- The number of bytes of some characters. -/
def byteLength (cs : List Char) : Nat := cs.foldl (fun n c => n + c.utf8Size) 0

/-- A stop at the point reached. -/
def stopHere {α : Type} (cause : Cause) (rest : List Char) : Except Stop α :=
  .error ⟨cause, rest, 0⟩

/-- A stop because of the character ahead, or of the end of the text. -/
def stopAhead {α : Type} (cause : Cause) (rest : List Char) : Except Stop α :=
  .error ⟨cause, rest, 1⟩

/-- The characters that may stand between tokens. -/
def isBlank (c : Char) : Bool := c == ' ' || c == '\n' || c == '\t' || c == '\r'

/-- The text without blanks at its start. -/
def skipBlanks (cs : List Char) : List Char := cs.dropWhile isBlank

/-! ### Words -/

/-- Reads the characters of a word one by one. -/
def readWord (value : Json) : (word : List Char) → List Char → Except Stop (Json × List Char)
  | [], cs => .ok (value, cs)
  | _ :: _, [] => stopHere .endInValue []
  | w :: ws, c :: cs => if c = w then readWord value ws cs else stopHere .wordExpected cs

/-! ### Numbers -/

/-- The value of a decimal digit. -/
def digit? (c : Char) : Option Nat := if c.isDigit then some (c.toNat - '0'.toNat) else none

/-- The digits at the start of a text. -/
def takeDigits (cs : List Char) : List Nat × List Char :=
  (cs.takeWhile Char.isDigit |>.filterMap digit?, cs.dropWhile Char.isDigit)

/-- The number that decimal digits spell. -/
def numberOfDigits (ds : List Nat) : Nat := ds.foldl (fun n d => n * 10 + d) 0

/-- Reads the digits before the point: a zero, or digits that do not start with zero. -/
def readWhole : List Char → Except Stop (List Nat × List Char)
  | [] => stopHere .endInValue []
  | '0' :: cs =>
    match cs with
    | c :: _ => if c.isDigit then stopAhead .badNumber cs else .ok ([0], cs)
    | [] => .ok ([0], cs)
  | c :: cs => if c.isDigit then .ok (takeDigits (c :: cs)) else stopHere .badNumber cs

/-- Reads a point with the digits after it, if there is one. -/
def readFraction : List Char → Except Stop (Option (List Nat) × List Char)
  | '.' :: cs =>
    match takeDigits cs with
    | ([], []) => stopAhead .endInValue []
    | ([], rest) => stopAhead .badNumber rest
    | (ds, rest) => .ok (some ds, rest)
  | cs => .ok (none, cs)

/-- The exponents whose magnitude is at least this are out of range at the digit that shows it. -/
def exponentBound : Nat := Nat.pow 2 31

/-- The digits of an exponent up to the one that takes it out of range, and the others. -/
def splitExponent (exponent : Nat) : List Nat → List Nat × List Nat
  | [] => ([], [])
  | d :: ds =>
    if exponent * 10 + d < exponentBound then
      ((splitExponent (exponent * 10 + d) ds).1.cons d, (splitExponent (exponent * 10 + d) ds).2)
    else ([d], ds)

/-- Reads an exponent, if there is one: its value, and the number of its digits after it is out of
range. -/
def readExponent : List Char → Except Stop (Option (Int × Nat) × List Char)
  | [] => .ok (none, [])
  | e :: cs =>
    if e == 'e' || e == 'E' then
      let (negative, cs) :=
        match cs with
        | '+' :: cs => (false, cs)
        | '-' :: cs => (true, cs)
        | cs => (false, cs)
      match cs with
      | [] => stopHere .endInValue []
      | c :: rest =>
        if c.isDigit then
          let (ds, rest) := takeDigits cs
          let value : Int := numberOfDigits ds
          .ok (some (if negative then -value else value, (splitExponent 0 ds).2.length), rest)
        else stopHere .badNumber rest
    else .ok (none, e :: cs)

/-- Reads a number behind its minus sign, if it has one. -/
def readNumber (rigour : Rigour) (negative : Bool) (cs : List Char) :
    Except Stop (Json × List Char) := do
  let (whole, cs) ← readWhole cs
  let (fraction?, cs) ← readFraction cs
  let (exponent?, rest) ← readExponent cs
  let numeral : Numeral := ⟨negative, whole, fraction?, exponent?.map Prod.fst⟩
  match numeral.value?, rigour with
  | some value, _ => .ok (.number value, rest)
  | none, .skimming => .ok (.unvalued, rest)
  | none, .full =>
    let unread := (exponent?.map Prod.snd).getD 0
    stopHere .numberTooLarge (cs.drop (cs.length - rest.length - unread))

/-! ### Strings -/

/-- The number that four hexadecimal digits spell. -/
def hexUnit? (a b c d : Char) : Option Nat := do
  return ((← hexDigit? a) * 16 + (← hexDigit? b)) * 256 + ((← hexDigit? c) * 16 + (← hexDigit? d))

/-- The character that a one-letter escape stands for. -/
def escaped? : Char → Option Char
  | '"' => some '"'
  | '\\' => some '\\'
  | '/' => some '/'
  | 'b' => some '\x08'
  | 'f' => some '\x0c'
  | 'n' => some '\n'
  | 'r' => some '\r'
  | 't' => some '\t'
  | _ => none

/-- Whether a unit of UTF-16 is the first half of a surrogate pair. -/
def isHighSurrogate (unit : Nat) : Bool := 0xd800 ≤ unit && unit < 0xdc00

/-- Whether a unit of UTF-16 is the second half of a surrogate pair. -/
def isLowSurrogate (unit : Nat) : Bool := 0xdc00 ≤ unit && unit < 0xe000

/-- The character that a surrogate pair stands for. -/
def pairedSurrogates (high low : Nat) : Char :=
  Char.ofNat (0x10000 + (high - 0xd800) * 0x400 + (low - 0xdc00))

/-- The text of a string literal as far as it is read. -/
structure Draft where
  /-- The characters read, the last one first. -/
  read : List Char
  /-- The first half of a surrogate pair whose second half must follow at once. -/
  high? : Option Nat
  /-- Whether every surrogate so far has found its partner. -/
  paired : Bool
  deriving Repr

namespace Draft

/-- Nothing read yet. -/
def start : Draft := ⟨[], none, true⟩

/-- The draft with a character that is no surrogate; a half pair before it stays alone. -/
def add (d : Draft) (c : Char) : Draft := ⟨c :: d.read, none, d.paired && d.high?.isNone⟩

/-- The draft with a unit that was written as an escape. -/
def addUnit (d : Draft) (unit : Nat) : Draft :=
  match d.high? with
  | some high =>
    if isLowSurrogate unit then ⟨pairedSurrogates high unit :: d.read, none, d.paired⟩
    else ⟨d.read, none, false⟩
  | none =>
    if isHighSurrogate unit then ⟨d.read, some unit, d.paired⟩
    else if isLowSurrogate unit then ⟨d.read, none, false⟩
    else ⟨Char.ofNat unit :: d.read, none, d.paired⟩

/-- The text, unless some surrogate has no partner. -/
def text? (d : Draft) : Option String :=
  if d.paired && d.high?.isNone then some (String.ofList d.read.reverse) else none

end Draft

/-- Reads a string behind its opening quote. Its text is absent if some surrogate has no partner,
which only skimming admits. -/
def readString (rigour : Rigour) : (draft : Draft) → List Char →
    Except Stop (Option String × List Char)
  | _, [] => stopHere .endInString []
  | d, '\\' :: 'u' :: x :: y :: z :: w :: cs =>
    match hexUnit? x y z w with
    | none => .error ⟨.badEscape, x :: y :: z :: w :: cs, 4⟩
    | some unit =>
      if rigour = .full ∧ ¬(d.addUnit unit).paired then stopHere .loneSurrogate cs
      else readString rigour (d.addUnit unit) cs
  | d, c :: cs =>
    if rigour = .full ∧ d.high?.isSome ∧ ¬(c = '\\' ∧ (cs.isEmpty ∨ cs.head? = some 'u')) then
      if c = '\\' then stopAhead .halfSurrogatePair cs else stopAhead .halfSurrogatePair (c :: cs)
    else if c = '"' then
      match d.text? with
      | some text => .ok (some text, cs)
      | none => .ok (none, cs)
    else if c = '\\' then
      match cs with
      | [] => stopHere .endInString []
      | 'u' :: rest =>
        if byteLength rest < 4 then stopHere .endInString []
        else .error ⟨.badEscape, rest, 4⟩
      | e :: rest =>
        match escaped? e with
        | some character => readString rigour (d.add character) rest
        | none => .error ⟨.badEscape, e :: rest, 1⟩
    else if c.toNat < 0x20 then stopHere .controlCharacter cs
    else readString rigour (d.add c) cs

/-! ### Values -/

/-- Reads the items of an array behind its opening bracket, or behind an item. -/
def readItems (item : List Char → Except Stop (Json × List Char)) :
    (fuel : Nat) → (first : Bool) → List Char → Except Stop (List Json × List Char)
  | 0, _, cs => stopAhead .endInArray cs
  | fuel + 1, first, cs =>
    match skipBlanks cs with
    | [] => stopAhead .endInArray []
    | ']' :: rest => .ok ([], rest)
    | c :: rest =>
      if first then more fuel (c :: rest)
      else if c = ',' then
        match skipBlanks rest with
        | [] => stopAhead .endInValue []
        | ']' :: rest => stopAhead .trailingComma (']' :: rest)
        | cs => more fuel cs
      else stopAhead .arrayCommaExpected (c :: rest)
where
  /-- Reads an item and the items after it. -/
  more (fuel : Nat) (cs : List Char) : Except Stop (List Json × List Char) := do
    let (value, cs) ← item cs
    let (items, cs) ← readItems item fuel false cs
    return (value :: items, cs)

/-- Reads the members of an object behind its opening brace, or behind a member. -/
def readMembers (rigour : Rigour) (value : List Char → Except Stop (Json × List Char)) :
    (fuel : Nat) → (first : Bool) → List Char →
      Except Stop (List (Option String × Json) × List Char)
  | 0, _, cs => stopAhead .endInObject cs
  | fuel + 1, first, cs =>
    match skipBlanks cs with
    | [] => stopAhead .endInObject []
    | '}' :: rest => .ok ([], rest)
    | c :: rest =>
      if first then more fuel (c :: rest)
      else if c = ',' then
        match skipBlanks rest with
        | [] => stopAhead .endInValue []
        | '}' :: rest => stopAhead .trailingComma ('}' :: rest)
        | cs => more fuel cs
      else stopAhead .objectCommaExpected (c :: rest)
where
  /-- Reads a member and the members after it. -/
  more (fuel : Nat) (cs : List Char) :
      Except Stop (List (Option String × Json) × List Char) := do
    let (name?, cs) ← name cs
    let (member, cs) ← value (← colon (skipBlanks cs))
    let (members, cs) ← readMembers rigour value fuel false cs
    return ((name?, member) :: members, cs)
  /-- Reads the name of a member. -/
  name : List Char → Except Stop (Option String × List Char)
    | '"' :: cs => readString rigour Draft.start cs
    | cs => stopAhead .nameExpected cs
  /-- Reads the colon behind a name. -/
  colon : List Char → Except Stop (List Char)
    | [] => stopAhead .endInObject []
    | ':' :: cs => .ok cs
    | cs => stopAhead .colonExpected cs

/-- The object with these members, if every name has a text. -/
def objectOf (members : List (Option String × Json)) : Json :=
  match members.mapM fun (name?, value) => name?.map fun name => (name, value) with
  | some members => .object members
  | none => .unvalued

/-- Reads a value in which fewer than `depth` arrays and objects are nested. -/
def readValue (rigour : Rigour) : (depth : Nat) → List Char → Except Stop (Json × List Char)
  | 0, cs => stopAhead .tooDeep (skipBlanks cs)
  | depth + 1, cs =>
    match skipBlanks cs with
    | [] => stopAhead .endInValue []
    | 'n' :: cs => readWord .null ['u', 'l', 'l'] cs
    | 't' :: cs => readWord (.bool true) ['r', 'u', 'e'] cs
    | 'f' :: cs => readWord (.bool false) ['a', 'l', 's', 'e'] cs
    | '-' :: cs => readNumber rigour true cs
    | '"' :: cs => do
      let (text?, cs) ← readString rigour Draft.start cs
      return (match text? with | some text => .string text | none => .unvalued, cs)
    | '[' :: cs =>
      if depth = 0 then stopAhead .tooDeep ('[' :: cs)
      else do
        let (items, cs) ← readItems (readValue rigour depth) (cs.length + 1) true cs
        return (.array items, cs)
    | '{' :: cs =>
      if depth = 0 then stopAhead .tooDeep ('{' :: cs)
      else do
        let (members, cs) ← readMembers rigour (readValue rigour depth) (cs.length + 1) true cs
        return (objectOf members, cs)
    | c :: cs =>
      if c.isDigit then readNumber rigour false (c :: cs) else stopAhead .valueExpected (c :: cs)

/-! ### Whole texts -/

/-- The depth at which values may start: for reading in full, 127 arrays and objects may be
nested; skimming has no limit, and no text nests deeper than its length. -/
def Rigour.depth (rigour : Rigour) (text : List Char) : Nat :=
  match rigour with
  | .full => 128
  | .skimming => text.length + 2

/-- Reads a value that takes up a whole text but for blanks around it. -/
def readAll (rigour : Rigour) (text : List Char) : Except Stop Json := do
  let (value, rest) ← readValue rigour (rigour.depth text) text
  match skipBlanks rest with
  | [] => return value
  | rest => stopAhead .trailingText rest

/-- The error that a stop in a text amounts to. -/
def Stop.error (text : List Char) (stop : Stop) : Error :=
  let total := byteLength text
  let place := min total (total - byteLength stop.rest + stop.ahead)
  ⟨stop.cause, Position.after ⟨1, 0⟩ place text⟩

/-- The value that a text spells. -/
def read (rigour : Rigour) (text : String) : Except Error Json :=
  (readAll rigour text.toList).mapError (Stop.error text.toList)

/-- The value of a document, in which every object has one member for each name. -/
def readDocument (text : String) : Except Error Json := (read .full text).map merged

end MessageKeys.Json
