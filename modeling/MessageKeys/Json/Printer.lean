import MessageKeys.Json.Basic

/-!
# Printing JSON

The spelling of a JSON value with one item or member on a line, indented by two spaces for every
array or object around it. Empty arrays and objects stand on one line.

## Main definitions

* `MessageKeys.Json.quoted` — the spelling of a string.
* `MessageKeys.Json.pretty` — the spelling of a value.
-/

namespace MessageKeys.Json

/-- A hexadecimal digit. -/
def hexDigit (n : Nat) : Char := Nat.digitChar (n % 16)

/-- The spelling of a character in a string: quotes, backslashes and control characters are
escaped, and all others stand for themselves. -/
def quotedChar (c : Char) : List Char :=
  match c with
  | '"' => ['\\', '"']
  | '\\' => ['\\', '\\']
  | '\n' => ['\\', 'n']
  | '\r' => ['\\', 'r']
  | '\t' => ['\\', 't']
  | '\x08' => ['\\', 'b']
  | '\x0c' => ['\\', 'f']
  | c =>
    if c.toNat < 0x20 then ['\\', 'u', '0', '0', hexDigit (c.toNat / 16), hexDigit c.toNat]
    else [c]

/-- The spelling of a string. -/
def quoted (text : String) : String :=
  "\"" ++ String.ofList (text.toList.flatMap quotedChar) ++ "\""

/-- A new line with its indentation. -/
def newLine (indent : Nat) : String :=
  "\n" ++ String.ofList (List.replicate (2 * indent) ' ')

mutual

/-- The spelling of a value inside `indent` arrays and objects. -/
def prettyAt (indent : Nat) : Json → String
  | null => "null"
  | bool true => "true"
  | bool false => "false"
  | number n => n.text
  | string text => quoted text
  | array [] => "[]"
  | array (item :: items) =>
    "[" ++ newLine (indent + 1) ++ prettyAt (indent + 1) item ++ prettyItems (indent + 1) items ++
      newLine indent ++ "]"
  | object [] => "\x7b\x7d"
  | object ((name, value) :: members) =>
    "\x7b" ++ newLine (indent + 1) ++ quoted name ++ ": " ++ prettyAt (indent + 1) value ++
      prettyMembers (indent + 1) members ++ newLine indent ++ "\x7d"
  | unvalued => "null"

/-- The spelling of further items of an array. -/
def prettyItems (indent : Nat) : List Json → String
  | [] => ""
  | item :: items => "," ++ newLine indent ++ prettyAt indent item ++ prettyItems indent items

/-- The spelling of further members of an object. -/
def prettyMembers (indent : Nat) : List (String × Json) → String
  | [] => ""
  | (name, value) :: members =>
    "," ++ newLine indent ++ quoted name ++ ": " ++ prettyAt indent value ++
      prettyMembers indent members

end

/-- The spelling of a value. -/
def pretty (value : Json) : String := prettyAt 0 value

end MessageKeys.Json
