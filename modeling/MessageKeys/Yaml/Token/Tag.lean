import MessageKeys.Text.Digit
import MessageKeys.Yaml.Token.Basic
import MessageKeys.Yaml.Token.Cursor

/-!
# Anchors, tags and directives

The tokens that say something about a node or about a document. A tag is `!<uri>`, `!handle!suffix`
or `!suffix`; a lone `!` is the suffix of an empty handle.

## Main definitions

* `MessageKeys.Yaml.readAnchor` — the name of an anchor or alias.
* `MessageKeys.Yaml.readTag` — a tag.
* `MessageKeys.Yaml.readDirective` — a directive.
-/

namespace MessageKeys.Yaml

/-! ### Anchors -/

/-- The characters other than blanks that may follow the name of an anchor. -/
def mayFollowAnchor (c : Char) : Bool := "?:,]\x7d%@`".toList.contains c

/-- Reads the name of an anchor or an alias behind its indicator. -/
def readAnchor (c : Cursor) : Except Fault (String × Cursor) :=
  let (name, c) := c.takeWhile isWordChar
  if !name.isEmpty && (atWordEnd c.rest || startsWith mayFollowAnchor c.rest) then .ok (name, c)
  else .error .anchorName

/-! ### Tags -/

/-- The characters of a tag, apart from escapes. -/
def isTagChar (verbatim : Bool) (c : Char) : Bool :=
  isWordChar c || ";/?:@&=+$.!~*'()".toList.contains c || (verbatim && ",[]".toList.contains c)

/-- The number that hexadecimal digits spell, if all are. -/
def hexNumber? (cs : List Char) : Option Nat :=
  cs.foldlM (fun n c => (hexDigit? c).map (n * 16 + ·)) 0

/-- The number of bytes of the character that starts with a byte, and its part of the code
point. -/
def leadingByte? (byte : Nat) : Option (Nat × Nat) :=
  if byte < 0x80 then some (1, byte)
  else if 0xc0 ≤ byte ∧ byte < 0xe0 then some (2, byte - 0xc0)
  else if 0xe0 ≤ byte ∧ byte < 0xf0 then some (3, byte - 0xe0)
  else if 0xf0 ≤ byte ∧ byte < 0xf8 then some (4, byte - 0xf0)
  else none

/-- Reads a byte that is written as a percent sign and two hexadecimal digits. -/
def readEscapedByte : List Char → Except Fault (Nat × List Char)
  | '%' :: x :: y :: rest =>
    match hexNumber? [x, y] with
    | some byte => .ok (byte, rest)
    | none => .error .tagText
  | _ => .error .tagText

/-- Reads further bytes of an escaped character. -/
def readTrailingBytes : (count : Nat) → (code : Nat) → List Char → Except Fault (Nat × List Char)
  | 0, code, rest => .ok (code, rest)
  | count + 1, code, rest => do
    let (byte, rest) ← readEscapedByte rest
    if 0x80 ≤ byte ∧ byte < 0xc0 then readTrailingBytes count (code * 64 + (byte - 0x80)) rest
    else throw .tagText

/-- Reads a character whose bytes are all escaped. -/
def readEscapedChar (rest : List Char) : Except Fault (Char × List Char) := do
  let (byte, rest) ← readEscapedByte rest
  match leadingByte? byte with
  | none => throw .tagText
  | some (bytes, code) =>
    let (code, rest) ← readTrailingBytes (bytes - 1) code rest
    return (Char.ofNat code, rest)

/-- Reads the characters of a tag. -/
def readTagChars (verbatim : Bool) :
    (fuel : Nat) → (text : String) → Cursor → Except Fault (String × Cursor)
  | 0, text, c => .ok (text, c)
  | fuel + 1, text, c =>
    match c.rest with
    | [] => .ok (text, c)
    | x :: _ =>
      if x == '%' then do
        let (x, rest) ← readEscapedChar c.rest
        readTagChars verbatim fuel (text.push x) (c.advance (c.rest.length - rest.length))
      else if isTagChar verbatim x then readTagChars verbatim fuel (text.push x) (c.advance 1)
      else .ok (text, c)

/-- Reads the text of a tag behind the text in `start`, which is not empty if `nonempty`. -/
def readTagText (verbatim nonempty : Bool) (start : String) (c : Cursor) :
    Except Fault (String × Cursor) := do
  let (text, c') ← readTagChars verbatim c.rest.length start c
  if nonempty && c'.index == c.index then throw .tagText
  return (text, c')

/-- Reads a tag handle: an exclamation mark with a word and possibly another exclamation mark. -/
def readHandle (c : Cursor) : Except Fault (String × Cursor) :=
  match c.rest with
  | '!' :: _ =>
    let (word, c) := (c.advance 1).takeWhile isWordChar
    if startsWith (· == '!') c.rest then .ok ("!" ++ word ++ "!", c.advance 1)
    else .ok ("!" ++ word, c)
  | _ => .error .tagText

/-- Whether a handle ends in an exclamation mark of its own. -/
def isFullHandle (handle : String) : Bool := handle != "!" && handle.endsWith "!"

/-- Reads a tag. -/
def readTag (inFlow : Bool) (c : Cursor) : Except Fault (Token × Cursor) := do
  let (token, c) ←
    match c.rest with
    | '!' :: '<' :: _ => do
      let (suffix, c) ← readTagText true true "" (c.advance 2)
      if !startsWith (· == '>') c.rest then throw .tagText
      pure (Token.tag "" suffix, c.advance 1)
    | _ => do
      let (handle, c) ← readHandle c
      if isFullHandle handle then
        let (suffix, c) ← readTagText false true "" c
        pure (Token.tag handle suffix, c)
      else
        let (suffix, c) ← readTagText false false (String.ofList (handle.toList.drop 1)) c
        pure (if suffix.isEmpty then Token.tag "" "!" else Token.tag "!" suffix, c)
  if atWordEnd c.rest || (inFlow && startsWith (· == ',') c.rest) then return (token, c)
  else throw .tagText

/-! ### Directives -/

/-- Reads a part of a version: up to nine digits. -/
def readVersionPart (c : Cursor) : Except Fault (Nat × Cursor) :=
  let (digits, c) := c.takeWhile Char.isDigit
  if digits.isEmpty || 9 < digits.length then .error .directive
  else .ok (digits.toList.foldl (fun n d => n * 10 + (d.toNat - '0'.toNat)) 0, c)

/-- Reads a version behind the name of its directive. -/
def readVersion (c : Cursor) : Except Fault (Token × Cursor) := do
  let (major, c) ← readVersionPart (c.skipWhile isBlank)
  if !startsWith (· == '.') c.rest then throw .directive
  let (minor, c) ← readVersionPart (c.advance 1)
  return (.versionDirective major minor, c)

/-- Reads a tag handle and the text it stands for behind the name of their directive. -/
def readTagDirective (c : Cursor) : Except Fault (Token × Cursor) := do
  let (handle, c) ← readHandle (c.skipWhile isBlank)
  if handle != "!" && !isFullHandle handle then throw .directive
  if !startsWith isBlank c.rest then throw .directive
  let (start, c) ← readTagText true true "" (c.skipWhile isBlank)
  if !atWordEnd c.rest then throw .directive
  return (.tagDirective handle start, c)

/-- Reads a directive behind its percent sign, with its line. -/
def readDirective (c : Cursor) : Except Fault (Token × Cursor) := do
  let (name, c) := c.takeWhile isWordChar
  if name.isEmpty || !atWordEnd c.rest then throw .directive
  let (token, c) ←
    if name = "YAML" then readVersion c
    else if name = "TAG" then readTagDirective c
    else throw .directive
  let c := c.skipComment
  if atLineEnd c.rest then return (token, c.takeBreak.2) else throw .directive

end MessageKeys.Yaml
