/-!
# Double-precision numbers

A finite double is a sign and a natural number of *units* of `2 ^ (-1074)`, the distance between
the smallest doubles. Its magnitude is a double exactly if it has at most 53 significant bits and
is below `2 ^ 1024`, that is below `2 ^ 2098` units.

Every operation computes the exact rational result and rounds it once, to the nearest double and
on a tie to the one with the even significand.

## Main definitions

* `MessageKeys.Double` — a finite double.
* `MessageKeys.Double.step` — the distance from a magnitude to the next larger double.
* `MessageKeys.Double.roundRatio` — the nearest double of a quotient of natural numbers.
* `MessageKeys.Double.ofDecimal?` — the nearest double of a decimal number.
* `MessageKeys.Double.scaleDecimal?` — a whole number scaled by a power of ten in double
  arithmetic, rounding each operand and each result.
-/

namespace MessageKeys

/-- A finite double: `units * 2 ^ (-1074)` with a sign, which zero has too. -/
structure Double where
  negative : Bool
  units : Nat
  deriving DecidableEq, Repr, Inhabited

namespace Double

/-- Units in one. -/
def one : Nat := Nat.pow 2 1074

/-- The least number of units that is too large for a double. -/
def bound : Nat := Nat.pow 2 2098

/-- The distance, in units, from a magnitude to the next larger double: its binade holds
`2 ^ 52` of them. -/
def step (units : Nat) : Nat := Nat.pow 2 (units.log2 - 52)

/-- The nearest natural number to `num / den`, an even one on a tie. -/
def roundQuotient (num den : Nat) : Nat :=
  let floor := num / den
  let twice := 2 * (num % den)
  if den < twice || (twice == den && floor % 2 == 1) then floor + 1 else floor

/-- The units of the double nearest to `num / den` units, if there were no largest double. -/
def roundUnits (num den : Nat) : Nat :=
  let grain := step (num / den)
  roundQuotient num (den * grain) * grain

/-- The units of the double nearest to `num / den`, unless it is too large. -/
def roundRatio (num den : Nat) : Option Nat :=
  let units := roundUnits (num * one) den
  if units < bound then some units else none

/-- The units of the double nearest to `significand * 10 ^ exponent`, unless it is too large.
Numbers far outside the range of doubles are settled by their decimal exponent alone. -/
def ofDecimal? (significand : Nat) (exponent : Int) : Option Nat :=
  if significand = 0 then some 0
  else
    let leading := exponent + (Nat.toDigits 10 significand).length
    if leading < -400 then some 0
    else if 400 < leading then none
    else if 0 ≤ exponent then roundRatio (significand * Nat.pow 10 exponent.toNat) 1
    else roundRatio significand (Nat.pow 10 (-exponent).toNat)

/-- The units of `10 ^ n` as a double, for `n ≤ 308`. -/
def powerOfTen (n : Nat) : Nat := roundUnits (Nat.pow 10 n * one) 1

/-- The product of two magnitudes, unless it is too large. -/
def multiply? (x y : Nat) : Option Nat := roundRatio (x * y) (one * one)

/-- The quotient of two magnitudes; `y` is at least one. -/
def divide (x y : Nat) : Nat := roundUnits (x * one) y

/-- The units of `x * 10 ^ exponent` in double arithmetic: one multiplication by, or one division
by, the double nearest to the power of ten, after as many divisions by `10 ^ 308` as bring a small
exponent into range. -/
def scale? (x : Nat) (exponent : Int) : Option Nat :=
  if exponent.natAbs ≤ 308 then
    if 0 ≤ exponent then multiply? x (powerOfTen exponent.natAbs)
    else some (divide x (powerOfTen exponent.natAbs))
  else if x = 0 then some 0
  else if h : 0 ≤ exponent then none
  else scale? (divide x (powerOfTen 308)) (exponent + 308)
termination_by exponent.natAbs
decreasing_by omega

/-- The units of `significand * 10 ^ exponent` in double arithmetic, unless it is too large. -/
def scaleDecimal? (significand : Nat) (exponent : Int) : Option Nat :=
  scale? (roundUnits (significand * one) 1) exponent

end Double

end MessageKeys
