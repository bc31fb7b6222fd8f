import MessageKeys.Text.Property

/-!
# Text in quotes

A text is shown between double quotes so that every character of it can be told: characters that
end the quotation or a line, that would join the character before them, or that leave no mark are
written as escapes.

## Main definitions

* `MessageKeys.isShown` — characters that leave a mark of their own.
* `MessageKeys.escaped` — how a character is written between quotes.
* `MessageKeys.quotedMessage`, `MessageKeys.quotedPath` — texts between quotes.
-/

namespace MessageKeys

/-- Whether a character leaves a mark: unassigned, private and control characters, separators other
than the space, and characters that are ignored by default do not. -/
def isShown (c : Char) : Bool :=
  c == ' ' || !(hasKind 'C' c || hasKind 'Z' c || defaultIgnorable.contains c)

/-- The escape that names the code point of a character. -/
def codePointEscape (c : Char) : List Char :=
  ['\\', 'u', '{'] ++ Nat.toDigits 16 c.toNat ++ ['}']

/-- How a character is written between quotes; those in `marks` stand behind a backslash. -/
def escaped (marks : List Char) (c : Char) : List Char :=
  if c = '\x00' then ['\\', '0']
  else if c = '\t' then ['\\', 't']
  else if c = '\r' then ['\\', 'r']
  else if c = '\n' then ['\\', 'n']
  else if c = '\\' || marks.contains c then ['\\', c]
  else if isGraphemeExtend c || !isShown c then codePointEscape c
  else [c]

/-- A text between double quotes; the characters in `marks` stand behind a backslash. -/
def quotedWith (marks : List Char) (text : String) : String :=
  String.ofList ('"' :: text.toList.flatMap (escaped marks) ++ ['"'])

/-- A message between double quotes. -/
def quotedMessage (text : String) : String := quotedWith ['"'] text

/-- The text of a path between double quotes, in which single quotes are escaped too. -/
def quotedPath (text : String) : String := quotedWith ['"', '\''] text

end MessageKeys
