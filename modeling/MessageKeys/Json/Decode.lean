import MessageKeys.Json.Basic

/-!
# Decoding JSON values

Records as JSON values: an object whose members are the fields under their names, or an array of
the fields in order. Members under other names do not count. A field may be left out if it has a
default, and may not be given twice.

## Main definitions

* `MessageKeys.Json.text?`, `MessageKeys.Json.texts?`, `MessageKeys.Json.char?`,
  `MessageKeys.Json.truth?` — the values of fields.
* `MessageKeys.Json.Fields` — the fields of a record.
* `MessageKeys.Json.fields?` — the fields that a value gives.
* `MessageKeys.Json.Fields.get?`, `MessageKeys.Json.Fields.getD?` — the value of one field.
-/

namespace MessageKeys.Json

/-! ### Values of fields -/

/-- A string. -/
def text? : Json → Option String
  | string text => some text
  | _ => none

/-- A string of one character. -/
def char? : Json → Option Char
  | string text =>
    match text.toList with
    | [c] => some c
    | _ => none
  | _ => none

/-- `true` or `false`. -/
def truth? : Json → Option Bool
  | bool value => some value
  | _ => none

/-- An array of values of some kind. -/
def items? {α : Type} (item? : Json → Option α) : Json → Option (List α)
  | array items => items.mapM item?
  | _ => none

/-- An array of strings. -/
def texts? : Json → Option (List String) := items? text?

/-- `null`, or a value of some kind. -/
def nullable? {α : Type} (value? : Json → Option α) : Json → Option (Option α)
  | null => some none
  | value => (value? value).map some

/-! ### Records -/

/-- The fields of a record with their names. -/
structure Fields where
  members : List (String × Json)

/-- The fields that a value gives: an object by their names, or an array in the order `names`. -/
def fields? (names : List String) : Json → Option Fields
  | object members => some ⟨members⟩
  | array items => if items.length ≤ names.length then some ⟨names.zip items⟩ else none
  | _ => none

namespace Fields

/-- The values that stand under one of the names of a field. -/
def under (f : Fields) (names : List String) : List Json :=
  f.members.filterMap fun member => if names.contains member.1 then some member.2 else none

/-- The value of a field that must be given. -/
def get? {α : Type} (f : Fields) (name : String) (value? : Json → Option α) : Option α :=
  match f.under [name] with
  | [value] => value? value
  | _ => none

/-- The value of a field that may be left out, under any one of its names. -/
def getD? {α : Type} (f : Fields) (names : List String) (value? : Json → Option α) (default : α) :
    Option α :=
  match f.under names with
  | [] => some default
  | [value] => value? value
  | _ => none

end Fields

end MessageKeys.Json
