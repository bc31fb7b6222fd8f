import MessageKeys.Yaml.Token.Scalar

/-!
# The token stream of a YAML text

Tokens are found one after another. Two things need a memory of what came before. The indentation
of the open block collections tells where a collection starts and ends. And whether something was
a key is only known at the colon behind it, so wherever a *simple key* could start its place in
the stream is kept; the colon then puts a key token there. A simple key is in one line and no
longer than 1024 characters.

## Main definitions

* `MessageKeys.Yaml.PossibleKey` — a place where a simple key may have started.
* `MessageKeys.Yaml.Lexer` — the tokens found so far, with open collections and possible keys.
* `MessageKeys.Yaml.Lexer.next` — finds the next token.
* `MessageKeys.Yaml.tokens` — all tokens of a text.
-/

namespace MessageKeys.Yaml

/-- A place where a simple key may have started. -/
structure PossibleKey where
  /-- The number of tokens before it. -/
  token : Nat
  place : Cursor
  /-- Whether there must be a colon behind it, because nothing else fits its indentation. -/
  isRequired : Bool

/-- The tokens found so far, and what is open. -/
structure Lexer where
  cursor : Cursor
  tokens : Array Token
  /-- The possible key of each open flow collection, the innermost first, and of the block
  collections around them. -/
  keys : List (Option PossibleKey)
  /-- Whether a simple key may start here. -/
  keyAllowed : Bool
  /-- The indentation of the innermost block collection. -/
  indent : Int
  /-- The indentation of the block collections around it, the innermost first. -/
  outer : List Int

namespace Lexer

/-- The start of a text. -/
def start (text : List Char) : Lexer := ⟨.start text, #[], [none], true, -1, []⟩

/-- Whether a flow collection is open. -/
def inFlow (l : Lexer) : Bool := 1 < l.keys.length

/-- Adds a token. -/
def add (l : Lexer) (t : Token) : Lexer := { l with tokens := l.tokens.push t }

/-- Adds a token behind the first `index` tokens. -/
def insert (l : Lexer) (index : Nat) (t : Token) : Lexer :=
  { l with tokens := l.tokens.insertIdxIfInBounds index t }

/-- Moves on inside a line. -/
def advance (l : Lexer) (n : Nat) : Lexer := { l with cursor := l.cursor.advance n }

/-! ### Possible keys -/

/-- Gives up the possible key of the innermost collection. -/
def dropKey (l : Lexer) : Except Fault Lexer :=
  match l.keys with
  | some key :: outer =>
    if key.isRequired then .error .missingColon else .ok { l with keys := none :: outer }
  | _ => .ok l

/-- Keeps this place as a possible key. -/
def saveKey (l : Lexer) : Except Fault Lexer :=
  if l.keyAllowed then do
    let l ← l.dropKey
    let isRequired := !l.inFlow && l.indent == l.cursor.column
    return { l with keys := some ⟨l.tokens.size, l.cursor, isRequired⟩ :: l.keys.drop 1 }
  else .ok l

/-- Whether a simple key that started at `key` can no longer end at `c`. -/
def isStale (c : Cursor) (key : PossibleKey) : Bool :=
  key.place.line < c.line || key.place.index + 1024 < c.index

/-- Gives up the possible keys that are in another line or too long. -/
def dropStaleKeys (l : Lexer) : Except Fault Lexer := do
  let keys ← l.keys.mapM fun
    | some key =>
      if isStale l.cursor key then if key.isRequired then throw .missingColon else pure none
      else pure (some key)
    | none => pure none
  return { l with keys }

/-! ### Indentation -/

/-- Starts a block collection if this column is further in than the innermost one. Its token stands
at `index?`, or at the end. -/
def indentTo (l : Lexer) (column : Nat) (index? : Option Nat) (t : Token) : Lexer :=
  if !l.inFlow && l.indent < column then
    let l := { l with indent := column, outer := l.indent :: l.outer }
    match index? with
    | some index => l.insert index t
    | none => l.add t
  else l

/-- Ends the block collections that are further in than this column; `outer` lists the indentations
around the innermost one. -/
def dedentTo (column : Int) : (outer : List Int) → Lexer → Lexer
  | [], l => l
  | i :: outer, l =>
    if column < l.indent then dedentTo column outer { l.add .blockEnd with indent := i, outer }
    else l

/-- Ends the block collections that are further in than this column, outside of flow collections. -/
def dedent (l : Lexer) (column : Int) : Lexer :=
  if l.inFlow then l else dedentTo column l.outer l

/-! ### Blanks and comments -/

/-- Skips blanks, comments and line breaks. A tab may not stand where a key may start in a block
collection, and a new line there allows a simple key. -/
def skipBlanks : (fuel : Nat) → Lexer → Lexer
  | 0, l => l
  | fuel + 1, l =>
    let tabs := l.inFlow || !l.keyAllowed
    let c := l.cursor
    let c := if c.index == 0 && startsWith (· == '\ufeff') c.rest then c.advance 1 else c
    let c := c.skipWhile fun x => x == ' ' || (tabs && x == '\t')
    let c := if startsWith (· == '#') c.rest then c.skipWhile (!isBreak ·) else c
    if startsWith isBreak c.rest then
      skipBlanks fuel { l with cursor := c.takeBreak.2, keyAllowed := !l.inFlow || l.keyAllowed }
    else { l with cursor := c }

/-! ### Tokens -/

/-- The end of the text, which ends all block collections. -/
def addStreamEnd (l : Lexer) : Except Fault Lexer := do
  let l ← (l.dedent (-1)).dropKey
  return { l.add .streamEnd with keyAllowed := false }

/-- A directive. -/
def addDirective (l : Lexer) : Except Fault Lexer := do
  let l ← (l.dedent (-1)).dropKey
  let (token, cursor) ← readDirective (l.cursor.advance 1)
  return { l.add token with cursor, keyAllowed := false }

/-- The marker of the start or the end of a document. -/
def addMarker (l : Lexer) (t : Token) : Except Fault Lexer := do
  let l ← (l.dedent (-1)).dropKey
  return { (l.add t).advance 3 with keyAllowed := false }

/-- The start of a flow collection. -/
def addFlowStart (l : Lexer) (t : Token) : Except Fault Lexer := do
  let l ← l.saveKey
  return { (l.add t).advance 1 with keys := none :: l.keys, keyAllowed := true }

/-- The end of a flow collection. -/
def addFlowEnd (l : Lexer) (t : Token) : Except Fault Lexer := do
  let l ← l.dropKey
  let keys := if l.inFlow then l.keys.drop 1 else l.keys
  return { (l.add t).advance 1 with keys, keyAllowed := false }

/-- A comma. -/
def addFlowEntry (l : Lexer) : Except Fault Lexer := do
  let l ← l.dropKey
  return { (l.add .flowEntry).advance 1 with keyAllowed := true }

/-- A dash. -/
def addBlockEntry (l : Lexer) : Except Fault Lexer := do
  if !l.inFlow && !l.keyAllowed then throw .entryNotAllowed
  let l ← (l.indentTo l.cursor.column none .blockSequenceStart).dropKey
  return { (l.add .blockEntry).advance 1 with keyAllowed := true }

/-- A question mark. -/
def addKey (l : Lexer) : Except Fault Lexer := do
  if !l.inFlow && !l.keyAllowed then throw .keyNotAllowed
  let l ← (l.indentTo l.cursor.column none .blockMappingStart).dropKey
  return { (l.add .key).advance 1 with keyAllowed := !l.inFlow }

/-- A colon. If a simple key is possible, what stands there is the key. -/
def addValue (l : Lexer) : Except Fault Lexer :=
  match l.keys with
  | some key :: outer =>
    let l := { l.insert key.token .key with keys := none :: outer }
    let l := l.indentTo key.place.column (some key.token) .blockMappingStart
    .ok { (l.add .value).advance 1 with keyAllowed := false }
  | _ =>
    if !l.inFlow && !l.keyAllowed then .error .valueNotAllowed
    else
      let l := l.indentTo l.cursor.column none .blockMappingStart
      .ok { (l.add .value).advance 1 with keyAllowed := !l.inFlow }

/-- An anchor or an alias. -/
def addAnchor (l : Lexer) (token : String → Token) : Except Fault Lexer := do
  let l ← l.saveKey
  let (name, cursor) ← readAnchor (l.cursor.advance 1)
  return { l.add (token name) with cursor, keyAllowed := false }

/-- A tag. -/
def addTag (l : Lexer) : Except Fault Lexer := do
  let l ← l.saveKey
  let (token, cursor) ← readTag l.inFlow l.cursor
  return { l.add token with cursor, keyAllowed := false }

/-- A block scalar. -/
def addBlockScalar (l : Lexer) (literal : Bool) : Except Fault Lexer := do
  let l ← l.dropKey
  let (text, cursor) ← readBlock literal l.indent (l.cursor.advance 1)
  return { l.add (.scalar text .quoted) with cursor, keyAllowed := true }

/-- A quoted scalar. -/
def addQuoted (l : Lexer) (single : Bool) : Except Fault Lexer := do
  let l ← l.saveKey
  let (text, cursor) ← readQuoted single (l.cursor.advance 1)
  return { l.add (.scalar text .quoted) with cursor, keyAllowed := false }

/-- A plain scalar. -/
def addPlain (l : Lexer) : Except Fault Lexer := do
  let l ← l.saveKey
  let scalar ← readPlain l.inFlow (l.indent + 1) l.cursor
  return { l.add (.scalar scalar.text .plain) with
    cursor := scalar.place, keyAllowed := scalar.broken }

/-- The characters that do not start a plain scalar, at least not if a blank follows. -/
def isIndicator (c : Char) : Bool := "-?:,[]\x7b\x7d#&*!|>'\"%@`".toList.contains c

/-- Whether a plain scalar starts with `x`, followed by `rest`. -/
def startsPlain (inFlow : Bool) (x : Char) (rest : List Char) : Bool :=
  (!isIndicator x && !isBlank x) || (x == '-' && !startsWith isBlank rest) ||
    (!inFlow && (x == '?' || x == ':') && !atWordEnd rest)

/-- Finds the token that starts with `x`, followed by `rest`. -/
def addToken (l : Lexer) (x : Char) (rest : List Char) : Except Fault Lexer :=
  let alone := atWordEnd rest
  if l.cursor.column == 0 && x == '%' then l.addDirective
  else if l.cursor.atMarker '-' then l.addMarker .documentStart
  else if l.cursor.atMarker '.' then l.addMarker .documentEnd
  else if x == '[' then l.addFlowStart .flowSequenceStart
  else if x == '{' then l.addFlowStart .flowMappingStart
  else if x == ']' then l.addFlowEnd .flowSequenceEnd
  else if x == '}' then l.addFlowEnd .flowMappingEnd
  else if x == ',' then l.addFlowEntry
  else if x == '-' && alone then l.addBlockEntry
  else if x == '?' && (l.inFlow || alone) then l.addKey
  else if x == ':' && (l.inFlow || alone) then l.addValue
  else if x == '*' then l.addAnchor .alias
  else if x == '&' then l.addAnchor .anchor
  else if x == '!' then l.addTag
  else if x == '|' && !l.inFlow then l.addBlockScalar true
  else if x == '>' && !l.inFlow then l.addBlockScalar false
  else if x == '\'' then l.addQuoted true
  else if x == '"' then l.addQuoted false
  else if startsPlain l.inFlow x rest then l.addPlain
  else .error .strayCharacter

/-- Finds the next token. -/
def next (l : Lexer) : Except Fault Lexer := do
  let l ← (l.skipBlanks (l.cursor.rest.length + 1)).dropStaleKeys
  let l := l.dedent l.cursor.column
  match l.cursor.rest with
  | [] => l.addStreamEnd
  | x :: rest => l.addToken x rest

/-- Finds tokens up to the end of the text. -/
def run : (fuel : Nat) → Lexer → Except Fault Lexer
  | 0, l => .ok l
  | fuel + 1, l => do
    let l ← l.next
    if l.tokens.back? = some .streamEnd then return l else run fuel l

end Lexer

/-- All tokens of a text. -/
def tokens (text : String) : Except Fault (List Token) := do
  let cs := text.toList
  if !cs.all isAllowed then throw .controlCharacter
  let l ← Lexer.run (2 * cs.length + 2) (.start cs)
  return l.tokens.toList

end MessageKeys.Yaml
