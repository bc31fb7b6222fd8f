import MessageKeys.Json.Basic

/-!
# JSON numerals

The value of a numeral. Its digits are taken into a significand as long as that fits into 64 bits;
digits after that only move the decimal point. A numeral without fraction and exponent whose
significand holds all its digits is a whole number, except `-0` and negative numbers that do not
fit into 64 bits with a sign. Any other numeral is the significand, rounded to a double, scaled by
a power of ten in double arithmetic.

## Main definitions

* `MessageKeys.Json.Numeral` — the parts of a numeral.
* `MessageKeys.Json.Numeral.value?` — its value; absent if the numeral is too large for a double.
-/

namespace MessageKeys.Json

/-- The parts of a numeral. -/
structure Numeral where
  negative : Bool
  /-- The digits before the point. -/
  whole : List Nat
  /-- The digits after the point, if there is one. -/
  fraction? : Option (List Nat)
  /-- The exponent, if there is one. -/
  exponent? : Option Int
  deriving DecidableEq, Repr

namespace Numeral

/-- The least significand that does not fit into 64 bits. -/
def significandBound : Nat := Nat.pow 2 64

/-- The significand extended by as many of the digits as fit, and the number of digits left. -/
def take (significand : Nat) : List Nat → Nat × Nat
  | [] => (significand, 0)
  | d :: ds =>
    if significand * 10 + d < significandBound then take (significand * 10 + d) ds
    else (significand, ds.length + 1)

/-- The value of a numeral. -/
def value? (n : Numeral) : Option Number :=
  let (whole, left) := take 0 n.whole
  let exact := left = 0 ∧ n.fraction?.isNone ∧ n.exponent?.isNone
  if exact ∧ ¬n.negative then some (.integer whole)
  else if exact ∧ 0 < whole ∧ whole ≤ Nat.pow 2 63 then some (.integer (-whole))
  else
    let fraction := n.fraction?.getD []
    let (significand, unused) := take whole fraction
    let used := fraction.length - unused
    let exponent := (left : Int) - used + n.exponent?.getD 0
    (Double.scaleDecimal? significand exponent).map fun units => .double ⟨n.negative, units⟩

end Numeral

end MessageKeys.Json
