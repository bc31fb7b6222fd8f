import MessageKeys.Yaml.Fault

/-!
# Characters and places in YAML text

## Main definitions

* `MessageKeys.Yaml.isBreak`, `MessageKeys.Yaml.isBlank`, `MessageKeys.Yaml.isWordChar` — classes
  of characters.
* `MessageKeys.Yaml.Cursor` — the rest of a text and the place where it starts.
* `MessageKeys.Yaml.Cursor.advance`, `MessageKeys.Yaml.Cursor.takeBreak` — moving on inside a line,
  and to the next.
* `MessageKeys.Yaml.Folding` — blanks and line breaks between two words of a scalar.
-/

namespace MessageKeys.Yaml

/-- The characters that may occur in a YAML text. -/
def isAllowed (c : Char) : Bool :=
  let n := c.toNat
  n == 0x09 || n == 0x0a || n == 0x0d || (0x20 ≤ n && n ≤ 0x7e) || n == 0x85 ||
    (0xa0 ≤ n && n ≤ 0xd7ff) || (0xe000 ≤ n && n ≤ 0xfffd) || 0x10000 ≤ n

/-- The characters that end a line. -/
def isBreak (c : Char) : Bool :=
  c == '\n' || c == '\r' || c == '\u0085' || c == '\u2028' || c == '\u2029'

/-- The characters that separate words within a line. -/
def isBlank (c : Char) : Bool := c == ' ' || c == '\t'

/-- The characters of anchors, tag handles and directive names. -/
def isWordChar (c : Char) : Bool := c.isAlphanum || c == '_' || c == '-'

/-- Whether a text starts with a character that satisfies `p`. -/
def startsWith (p : Char → Bool) : List Char → Bool
  | [] => false
  | c :: _ => p c

/-- Whether a text is at its end or starts with a line break. -/
def atLineEnd : List Char → Bool
  | [] => true
  | c :: _ => isBreak c

/-- Whether a text is at its end or starts with a blank or a line break. -/
def atWordEnd : List Char → Bool
  | [] => true
  | c :: _ => isBlank c || isBreak c

/-- The rest of a text and the place where it starts. -/
structure Cursor where
  rest : List Char
  index : Nat
  line : Nat
  column : Nat
  deriving Repr

namespace Cursor

/-- The start of a text. -/
def start (text : List Char) : Cursor := ⟨text, 0, 0, 0⟩

/-- The place behind the next `n` characters, which are in one line. -/
def advance (c : Cursor) (n : Nat) : Cursor :=
  ⟨c.rest.drop n, c.index + n, c.line, c.column + n⟩

/-- The place behind all next characters that satisfy `p`, which are in one line. -/
def skipWhile (c : Cursor) (p : Char → Bool) : Cursor := c.advance (c.rest.takeWhile p).length

/-- The next characters that satisfy `p`, and the place behind them. -/
def takeWhile (c : Cursor) (p : Char → Bool) : String × Cursor :=
  (String.ofList (c.rest.takeWhile p), c.skipWhile p)

/-- The next line break, as it counts in a scalar, and the place behind it. The separators of lines
and of paragraphs count as themselves and all other breaks as a line feed. -/
def takeBreak (c : Cursor) : List Char × Cursor :=
  match c.rest with
  | '\r' :: '\n' :: rest => (['\n'], ⟨rest, c.index + 2, c.line + 1, 0⟩)
  | b :: rest =>
    if isBreak b then
      ([if b == '\u2028' || b == '\u2029' then b else '\n'], ⟨rest, c.index + 1, c.line + 1, 0⟩)
    else ([], c)
  | [] => ([], c)

/-- Whether a document marker, three equal characters that stand alone at the start of a line, is
ahead. -/
def atMarker (c : Cursor) (mark : Char) : Bool :=
  c.column == 0 &&
    match c.rest with
    | x :: y :: z :: rest => x == mark && y == mark && z == mark && atWordEnd rest
    | _ => false

/-- Whether the start or the end of a document is ahead. -/
def atDocumentMarker (c : Cursor) : Bool := c.atMarker '-' || c.atMarker '.'

/-- The place behind blanks and a comment. -/
def skipComment (c : Cursor) : Cursor :=
  let c := c.skipWhile isBlank
  if startsWith (· == '#') c.rest then c.skipWhile (!isBreak ·) else c

end Cursor

/-! ### Line folding -/

/-- Blanks and line breaks between two words of a scalar. -/
structure Folding where
  /-- The blanks before any line break. -/
  blanks : List Char
  /-- Whether there is a line break; blanks do not count after that. -/
  broken : Bool
  /-- The first line break; none if it is escaped. -/
  first : List Char
  /-- The line breaks after the first. -/
  others : List Char
  deriving Repr

namespace Folding

/-- Nothing between two words. -/
def none : Folding := ⟨[], false, [], []⟩

/-- An escaped line break between two words. -/
def escaped : Folding := ⟨[], true, [], []⟩

/-- The text that stands for the folding: a single line feed becomes a space, and of several the
first is dropped. -/
def text (f : Folding) : List Char :=
  if f.broken then
    if f.first = ['\n'] then (if f.others.isEmpty then [' '] else f.others)
    else f.first ++ f.others
  else f.blanks

/-- Takes all blanks and line breaks ahead. The cursor stops early at a tab that satisfies
`isStray`, which tells from the folding and the place whether a tab is out of place. -/
def take (isStray : Folding → Cursor → Bool) :
    (fuel : Nat) → Folding → Cursor → Except Fault (Folding × Cursor)
  | 0, f, c => .ok (f, c)
  | fuel + 1, f, c =>
    match c.rest with
    | [] => .ok (f, c)
    | b :: _ =>
      if isBlank b then
        if b == '\t' && isStray f c then .error .strayTab
        else take isStray fuel (if f.broken then f else { f with blanks := f.blanks ++ [b] })
          (c.advance 1)
      else if isBreak b then
        let (br, c) := c.takeBreak
        take isStray fuel
          (if f.broken then { f with others := f.others ++ br } else ⟨[], true, br, []⟩) c
      else .ok (f, c)

end Folding

end MessageKeys.Yaml
