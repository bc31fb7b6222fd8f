import MessageKeys.Text.Blank

/-!
# Flags of regular expressions

Flags change how an expression is read. They are set for a group, or from a place on to the end of
the group around it.

## Main definitions

* `MessageKeys.Regex.Flags` — the flags.
* `MessageKeys.Regex.Flags.skip` — what stands between the parts of an expression.
* `MessageKeys.Regex.readFlags` — reads the flags at the start of a group.
-/

namespace MessageKeys.Regex

/-- How an expression is read. -/
structure Flags where
  /-- Case does not matter. -/
  ignoreCase : Bool := false
  /-- `^` and `$` stand for the ends of lines. -/
  multiLine : Bool := false
  /-- `.` stands for the characters that end a line too. -/
  dotAll : Bool := false
  /-- A carriage return ends a line too. -/
  crlf : Bool := false
  /-- Blanks and comments do not count. -/
  verbose : Bool := false
  /-- Classes hold characters beyond ASCII. -/
  unicode : Bool := true
  deriving DecidableEq, Repr

namespace Flags

/-- Skips blanks and comments, which go from a `#` to the end of the line. -/
def skipBlanks : (inComment : Bool) → List Char → List Char
  | _, [] => []
  | true, c :: cs => skipBlanks (c != '\n') cs
  | false, c :: cs =>
    if isBlankChar c then skipBlanks false cs
    else if c = '#' then skipBlanks true cs
    else c :: cs

/-- Skips what does not count. -/
def skip (f : Flags) (cs : List Char) : List Char :=
  if f.verbose then skipBlanks false cs else cs

/-- The flags with the one that a letter names. Whether repetitions are greedy does not matter to
what an expression describes. -/
def set (f : Flags) (value : Bool) : Char → Flags
  | 'i' => { f with ignoreCase := value }
  | 'm' => { f with multiLine := value }
  | 's' => { f with dotAll := value }
  | 'R' => { f with crlf := value }
  | 'x' => { f with verbose := value }
  | 'u' => { f with unicode := value }
  | _ => f

/-- Sets the flags that some letters name; those behind a hyphen are taken back. -/
def setAll (f : Flags) (value : Bool) : List Char → Flags
  | [] => f
  | '-' :: letters => f.setAll false letters
  | letter :: letters => (f.set value letter).setAll value letters

end Flags

/-- The letters that name flags, and the hyphen. -/
def flagLetters : List Char := ['i', 'm', 's', 'R', 'x', 'u', 'U', '-']

/-- Reads letters of flags up to a colon or a closing parenthesis, which is left. No letter may
stand there twice, and a hyphen may not stand at the end. -/
def readFlags : (letters : List Char) → List Char → Option (List Char × List Char)
  | _, [] => none
  | letters, c :: cs =>
    if c = ':' || c = ')' then
      if letters.head? = some '-' then none else some (letters.reverse, c :: cs)
    else if flagLetters.contains c && !letters.contains c then readFlags (c :: letters) cs
    else none

end MessageKeys.Regex
