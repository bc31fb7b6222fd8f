/-!
# Errors in JSON text

Why a text is not JSON, and where: the line, and the number of bytes of that line up to the place
where reading stopped.

## Main definitions

* `MessageKeys.Json.Cause` — the ways in which a text fails to be JSON.
* `MessageKeys.Json.Position` — a line and a column.
* `MessageKeys.Json.Position.after` — the position behind some bytes of a text.
* `MessageKeys.Json.Error` — a cause at a position, with `Error.message`.
-/

namespace MessageKeys.Json

/-- The ways in which a text fails to be JSON. -/
inductive Cause where
  | endInArray
  | endInObject
  | endInString
  | endInValue
  | colonExpected
  | arrayCommaExpected
  | objectCommaExpected
  | wordExpected
  | valueExpected
  | badEscape
  | badNumber
  | numberTooLarge
  | controlCharacter
  | nameExpected
  | loneSurrogate
  | halfSurrogatePair
  | trailingComma
  | trailingText
  | tooDeep
  deriving DecidableEq, Repr

/-- What is said about a cause. -/
def Cause.message : Cause → String
  | endInArray => "EOF while parsing a list"
  | endInObject => "EOF while parsing an object"
  | endInString => "EOF while parsing a string"
  | endInValue => "EOF while parsing a value"
  | colonExpected => "expected `:`"
  | arrayCommaExpected => "expected `,` or `]`"
  | objectCommaExpected => "expected `,` or `\x7d`"
  | wordExpected => "expected ident"
  | valueExpected => "expected value"
  | badEscape => "invalid escape"
  | badNumber => "invalid number"
  | numberTooLarge => "number out of range"
  | controlCharacter => "control character (\\u0000-\\u001F) found while parsing a string"
  | nameExpected => "key must be a string"
  | loneSurrogate => "lone leading surrogate in hex escape"
  | halfSurrogatePair => "unexpected end of hex escape"
  | trailingComma => "trailing comma"
  | trailingText => "trailing characters"
  | tooDeep => "recursion limit exceeded"

/-- A place in a text: lines count from one, and the column is the number of bytes before the
place in its line. -/
structure Position where
  line : Nat
  column : Nat
  deriving DecidableEq, Repr

/-- The position behind the first `bytes` bytes of a text, which may end inside a character. -/
def Position.after (start : Position) : (bytes : Nat) → List Char → Position
  | _, [] => start
  | bytes, c :: cs =>
    if bytes = 0 then start
    else if c = '\n' then Position.after ⟨start.line + 1, 0⟩ (bytes - 1) cs
    else
      Position.after ⟨start.line, start.column + min bytes c.utf8Size⟩ (bytes - c.utf8Size) cs

/-- A cause and the place where reading stopped. -/
structure Error where
  cause : Cause
  position : Position
  deriving DecidableEq, Repr

/-- What is said about an error. -/
def Error.message (e : Error) : String :=
  e.cause.message ++ " at line " ++ e.position.line.repr ++ " column " ++ e.position.column.repr

end MessageKeys.Json
