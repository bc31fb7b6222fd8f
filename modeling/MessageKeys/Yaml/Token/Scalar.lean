import MessageKeys.Yaml.Token.Tag

/-!
# Scalars in YAML text

The text of a scalar. Quoted and plain scalars may run over several lines: the blanks around a line
break are dropped and the break is folded. A block scalar is a run of indented lines, which are
either kept or folded.

## Main definitions

* `MessageKeys.Yaml.readQuoted` — a scalar in single or double quotes.
* `MessageKeys.Yaml.readPlain` — a plain scalar.
* `MessageKeys.Yaml.readBlock` — a block scalar.
-/

namespace MessageKeys.Yaml

/-! ### Quoted scalars -/

/-- The character that an escape of one letter stands for. -/
def escapedChar? : Char → Option Char
  | '0' => some '\x00'
  | 'a' => some '\x07'
  | 'b' => some '\x08'
  | 't' => some '\t'
  | '\t' => some '\t'
  | 'n' => some '\n'
  | 'v' => some '\x0b'
  | 'f' => some '\x0c'
  | 'r' => some '\r'
  | 'e' => some '\x1b'
  | ' ' => some ' '
  | '"' => some '"'
  | '/' => some '/'
  | '\\' => some '\\'
  | 'N' => some '\u0085'
  | '_' => some '\u00a0'
  | 'L' => some '\u2028'
  | 'P' => some '\u2029'
  | _ => none

/-- The number of hexadecimal digits behind the letter of an escape. -/
def escapeDigits? : Char → Option Nat
  | 'x' => some 2
  | 'u' => some 4
  | 'U' => some 8
  | _ => none

/-- Reads an escape behind its backslash. -/
def readEscape (c : Cursor) : Except Fault (Char × Cursor) :=
  match c.rest with
  | [] => .error .escape
  | letter :: rest =>
    match escapeDigits? letter, escapedChar? letter with
    | some n, _ =>
      match hexNumber? (rest.take n) with
      | some code =>
        if rest.length < n || (0xd800 ≤ code && code ≤ 0xdfff) || 0x10ffff < code then
          .error .escape
        else .ok (Char.ofNat code, c.advance (n + 1))
      | none => .error .escape
    | none, some character => .ok (character, c.advance 1)
    | none, none => .error .escape

/-- Reads the rest of a quoted scalar. At the start of a word, and behind every folding, a document
marker is out of place. -/
def readQuotedWords (single : Bool) :
    (fuel : Nat) → (text : String) → Cursor → Except Fault (String × Cursor)
  | 0, _, _ => .error .unclosedQuote
  | fuel + 1, text, c =>
    match c.rest with
    | [] => .error .unclosedQuote
    | x :: rest =>
      if c.atDocumentMarker then .error .unclosedQuote
      else if isBlank x || isBreak x then fold fuel text .none c
      else if single && x == '\'' && startsWith (· == '\'') rest then
        readQuotedWords single fuel (text.push '\'') (c.advance 2)
      else if x == (if single then '\'' else '"') then .ok (text, c.advance 1)
      else if !single && x == '\\' then
        if !rest.isEmpty && atLineEnd rest then fold fuel text .escaped (c.advance 1).takeBreak.2
        else do
          let (character, c) ← readEscape (c.advance 1)
          readQuotedWords single fuel (text.push character) c
      else readQuotedWords single fuel (text.push x) (c.advance 1)
where
  /-- Reads a folding and the words behind it. -/
  fold (fuel : Nat) (text : String) (f : Folding) (c : Cursor) :
      Except Fault (String × Cursor) := do
    let (f, c) ← f.take (fun _ _ => false) c.rest.length c
    readQuotedWords single fuel (text ++ String.ofList f.text) c

/-- Reads a quoted scalar behind its opening quote. -/
def readQuoted (single : Bool) (c : Cursor) : Except Fault (String × Cursor) :=
  readQuotedWords single (2 * c.rest.length + 2) "" c

/-! ### Plain scalars -/

/-- The indicators that end a plain scalar in a flow collection. -/
def isFlowIndicator (c : Char) : Bool := ",[]\x7b\x7d".toList.contains c

/-- Whether a plain scalar ends where a text starts: at a comment only if a blank is before it. -/
def endsPlain (inFlow : Bool) : List Char → Bool
  | [] => true
  | x :: rest => (x == ':' && atWordEnd rest) || (inFlow && isFlowIndicator x)

/-- Reads the characters of a word of a plain scalar. -/
def readPlainWord (inFlow : Bool) : (text : String) → List Char → Except Fault (String × Nat)
  | text, [] => .ok (text, 0)
  | text, x :: rest =>
    if isBlank x || isBreak x then .ok (text, 0)
    else if inFlow && x == ':' && startsWith (fun y => isFlowIndicator y || y == '?') rest then
      .error .colonInFlow
    else if endsPlain inFlow (x :: rest) then .ok (text, 0)
    else (readPlainWord inFlow (text.push x) rest).map fun (text, n) => (text, n + 1)

/-- A plain scalar, the place behind it, and whether blanks behind it run over a line break. -/
structure PlainScalar where
  text : String
  place : Cursor
  broken : Bool

/-- Reads words of a plain scalar, the next one after the folding `f`. Lines after the first are
indented by at least `indent` outside of flow collections. -/
def readPlainWords (inFlow : Bool) (indent : Int) :
    (fuel : Nat) → (text : String) → Folding → Cursor → Except Fault PlainScalar
  | 0, text, f, c => .ok ⟨text, c, f.broken⟩
  | fuel + 1, text, f, c =>
    if c.atDocumentMarker || startsWith (· == '#') c.rest then .ok ⟨text, c, f.broken⟩
    else do
      let (word, n) ← readPlainWord inFlow "" c.rest
      let (text, f) := if n = 0 then (text, f) else (text ++ String.ofList f.text ++ word, .none)
      let c := c.advance n
      if startsWith (fun x => isBlank x || isBreak x) c.rest then
        let (f, c) ← f.take (fun f c => f.broken && c.column < indent) c.rest.length c
        if !inFlow && c.column < indent then return ⟨text, c, f.broken⟩
        else readPlainWords inFlow indent fuel text f c
      else return ⟨text, c, f.broken⟩

/-- Reads a plain scalar. -/
def readPlain (inFlow : Bool) (indent : Int) (c : Cursor) : Except Fault PlainScalar :=
  readPlainWords inFlow indent (c.rest.length + 1) "" .none c

/-! ### Block scalars -/

/-- What becomes of the line breaks at the end of a block scalar. -/
inductive Chomping where
  /-- All are dropped. -/
  | strip
  /-- The first one is kept. -/
  | clip
  /-- All are kept. -/
  | keep
  deriving DecidableEq, Repr

/-- Reads a chomping indicator, if there is one. -/
def readChomping (c : Cursor) : Option Chomping × Cursor :=
  match c.rest with
  | '+' :: _ => (some .keep, c.advance 1)
  | '-' :: _ => (some .strip, c.advance 1)
  | _ => (none, c)

/-- Reads an indentation indicator, if there is one. -/
def readIncrement (c : Cursor) : Except Fault (Option Nat × Cursor) :=
  match c.rest with
  | x :: _ =>
    if x == '0' then .error .blockHeader
    else if x.isDigit then .ok (some (x.toNat - '0'.toNat), c.advance 1)
    else .ok (none, c)
  | [] => .ok (none, c)

/-- Reads the two indicators of a block scalar, which stand in any order. -/
def readBlockHeader (c : Cursor) : Except Fault (Chomping × Option Nat × Cursor) := do
  match readChomping c with
  | (some chomping, c) =>
    let (increment?, c) ← readIncrement c
    return (chomping, increment?, c)
  | (none, c) =>
    let (increment?, c) ← readIncrement c
    match increment?, readChomping c with
    | some _, (some chomping, c) => return (chomping, increment?, c)
    | _, _ => return (.clip, increment?, c)

/-- Empty lines of a block scalar: their breaks, the place behind them with its indentation, and
the largest column reached. -/
structure EmptyLines where
  breaks : List Char
  place : Cursor
  widest : Nat

/-- Reads the indentation of lines up to the next line that is not empty. Without an indentation in
`indent?` any number of spaces counts. -/
def readEmptyLines (indent? : Option Nat) :
    (fuel : Nat) → EmptyLines → Except Fault EmptyLines
  | 0, lines => .ok lines
  | fuel + 1, ⟨breaks, c, widest⟩ =>
    let spaces := (c.rest.takeWhile (· == ' ')).length
    let c := c.advance (match indent? with | some n => min spaces (n - c.column) | none => spaces)
    let widest := max widest c.column
    let inIndentation := match indent? with | some n => decide (c.column < n) | none => true
    if inIndentation && startsWith (· == '\t') c.rest then .error .strayTab
    else if startsWith isBreak c.rest then
      let (br, c) := c.takeBreak
      readEmptyLines indent? fuel ⟨breaks ++ br, c, widest⟩
    else .ok ⟨breaks, c, widest⟩

/-- The lines of a block scalar that have been read. -/
structure BlockLines where
  text : String
  /-- The break behind the last line that is not empty. -/
  last : List Char
  /-- The breaks of the empty lines after that. -/
  empty : List Char
  place : Cursor

/-- Reads the lines of a block scalar. A single line feed between two lines that do not start with
a blank is folded, unless the scalar is literal. -/
def readBlockLines (literal : Bool) (indent : Nat) :
    (fuel : Nat) → (afterBlank : Bool) → BlockLines → Except Fault BlockLines
  | 0, _, lines => .ok lines
  | fuel + 1, afterBlank, ⟨text, last, empty, c⟩ =>
    if c.column == indent && !c.rest.isEmpty then do
      let startsBlank := startsWith isBlank c.rest
      let between :=
        if !literal && last == ['\n'] && !afterBlank && !startsBlank then
          if empty.isEmpty then [' '] else empty
        else last ++ empty
      let (line, c) := c.takeWhile (!isBreak ·)
      let (last, c) := c.takeBreak
      let lines ← readEmptyLines (some indent) (c.rest.length + 1) ⟨[], c, 0⟩
      readBlockLines literal indent fuel startsBlank
        ⟨text ++ String.ofList between ++ line, last, lines.breaks, lines.place⟩
    else .ok ⟨text, last, empty, c⟩

/-- Reads a block scalar behind its indicator, inside collections indented by `parent`. -/
def readBlock (literal : Bool) (parent : Int) (c : Cursor) : Except Fault (String × Cursor) := do
  let (chomping, increment?, c) ← readBlockHeader c
  let c := c.skipComment
  if !atLineEnd c.rest then throw .blockHeader
  let c := c.takeBreak.2
  let given? := increment?.map fun n => ((max parent 0) + n).toNat
  let start ← readEmptyLines given? (c.rest.length + 1) ⟨[], c, 0⟩
  let indent := given?.getD (max (max start.widest (parent + 1).toNat) 1)
  let lines ← readBlockLines literal indent (c.rest.length + 1) false
    ⟨"", [], start.breaks, start.place⟩
  let kept :=
    match chomping with
    | .strip => []
    | .clip => lines.last
    | .keep => lines.last ++ lines.empty
  return (lines.text ++ String.ofList kept, lines.place)

end MessageKeys.Yaml
