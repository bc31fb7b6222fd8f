import MessageKeys.Number.Layout
import MessageKeys.Yaml.Fault

/-!
# YAML values

## Main definitions

* `MessageKeys.Yaml` — YAML values, with the tags that their document gives them.
* `MessageKeys.Yaml.Number` — whole numbers, doubles, infinities and the value that is no number.
* `MessageKeys.Yaml.isSame` — when two values are the same key of a mapping.
* `MessageKeys.Yaml.untagged` — a value without the tags on it.
-/

namespace MessageKeys

namespace Yaml

/-- A YAML number. -/
inductive Number where
  | integer (value : Int)
  | double (value : Double)
  | infinity (negative : Bool)
  | notANumber
  deriving DecidableEq, Repr, Inhabited

namespace Number

/-- Doubles in YAML have no sign on a positive exponent. -/
def layout : DecimalLayout := { plus := "" }

/-- The spelling of a number. -/
def text : Number → String
  | integer value => (if value < 0 then "-" else "") ++ value.natAbs.repr
  | double value => layout.text value
  | infinity negative => if negative then "-.inf" else ".inf"
  | notANumber => ".nan"

/-- Whether two numbers are the same key: a whole number is no double, and the two zeros are the
same. -/
def isSame : Number → Number → Bool
  | double x, double y => x.units == y.units && (x.negative == y.negative || x.units == 0)
  | x, y => x == y

end Number

end Yaml

/-- A YAML value. -/
inductive Yaml where
  | null
  | bool (value : Bool)
  | number (value : Yaml.Number)
  | string (text : String)
  | sequence (items : List Yaml)
  | mapping (entries : List (Yaml × Yaml))
  | tagged (tag : String) (value : Yaml)
  deriving Repr, Inhabited

namespace Yaml

mutual

/-- Whether two values are the same key of a mapping. The order of entries does not count. -/
def isSame : Yaml → Yaml → Bool
  | null, null => true
  | bool x, bool y => x == y
  | number x, number y => x.isSame y
  | string x, string y => x == y
  | sequence xs, sequence ys => areSame xs ys
  | mapping xs, mapping ys => xs.length == ys.length && areAmong xs ys
  | tagged t x, tagged u y => t == u && isSame x y
  | _, _ => false

/-- Whether two lists have the same values in order. -/
def areSame : List Yaml → List Yaml → Bool
  | [], [] => true
  | x :: xs, y :: ys => isSame x y && areSame xs ys
  | _, _ => false

/-- Whether the second mapping has every entry of the first. -/
def areAmong : List (Yaml × Yaml) → List (Yaml × Yaml) → Bool
  | [], _ => true
  | (k, v) :: rest, ys => (ys.any fun (k', v') => isSame k k' && isSame v v') && areAmong rest ys

end

/-- The value without the tags on it. -/
def untagged : Yaml → Yaml
  | tagged _ value => untagged value
  | value => value

end Yaml

end MessageKeys
