import MessageKeys.Number.Layout

/-!
# JSON values

A JSON value as its text gives it: the members of an object stand in the order of the text, and a
name may stand there repeatedly until `Json.merged` leaves one member for each name.

## Main definitions

* `MessageKeys.Json` — JSON values.
* `MessageKeys.Json.Number` — whole numbers of 64 bits, and doubles.
* `MessageKeys.Json.ofTexts`, `MessageKeys.Json.ofText?`, `MessageKeys.Json.ofNat` — values of data.
* `MessageKeys.Json.put`, `MessageKeys.Json.merged` — members with distinct names.
-/

namespace MessageKeys

namespace Json

/-- A JSON number. Whole numbers are exact between `- 2 ^ 63` and `2 ^ 64 - 1`; any other number
is a double. -/
inductive Number where
  | integer (value : Int)
  | double (value : Double)
  deriving DecidableEq, Repr, Inhabited

/-- Doubles in JSON have a sign on every exponent. -/
def Number.layout : DecimalLayout := { plus := "+" }

/-- The decimal digits of an integer, behind a minus sign if it is negative. -/
def Number.integerText (n : Int) : String :=
  (if n < 0 then "-" else "") ++ n.natAbs.repr

/-- The spelling of a number. -/
def Number.text : Number → String
  | integer value => integerText value
  | double value => layout.text value

end Json

/-- A JSON value. -/
inductive Json where
  | null
  | bool (value : Bool)
  | number (value : Json.Number)
  | string (text : String)
  | array (items : List Json)
  | object (members : List (String × Json))
  /-- A part of a text that is well formed but stands for no value, such as the number `1e999`.
  Only a reader that skims over such parts produces it. -/
  | unvalued
  deriving Repr, Inhabited

namespace Json

/-- The array of some strings. -/
def ofTexts (texts : List String) : Json := array (texts.map string)

/-- A string, or `null` if it is absent. -/
def ofText? (text? : Option String) : Json := (text?.map string).getD null

/-- A natural number. -/
def ofNat (n : Nat) : Json := number (.integer n)

/-- The members with `value` under `name`: in the place of the member of that name, or else at the
end. -/
def put (name : String) (value : Json) : List (String × Json) → List (String × Json)
  | [] => [(name, value)]
  | (other, old) :: rest =>
    if other = name then (name, value) :: rest else (other, old) :: put name value rest

mutual

/-- The value in which every object has one member for each name: it stands where the name stands
first, and has the value that the name has last. -/
def merged : Json → Json
  | array items => array (mergedItems items)
  | object members => object (mergedMembers members [])
  | value => value

/-- `merged` on the items of an array. -/
def mergedItems : List Json → List Json
  | [] => []
  | item :: items => item.merged :: mergedItems items

/-- `merged` on the members of an object, after those in `done`. -/
def mergedMembers : List (String × Json) → List (String × Json) → List (String × Json)
  | [], done => done
  | (name, value) :: rest, done => mergedMembers rest (put name value.merged done)

end

end Json

end MessageKeys
