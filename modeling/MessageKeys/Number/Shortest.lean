import MessageKeys.Number.Double

/-!
# Shortest decimal numbers

The *shortest decimal* of a double is a decimal number that reads back as that double, with as few
digits as possible, and the nearest to the double among those.

The real numbers that round to a double form an interval around it, which includes its ends if the
significand is even. A decimal number with few digits lies on a coarse grid of multiples of
`10 ^ k`, so the coarsest grid with a point in the interval is the one to use; if a grid has a
point in the interval, then one of the two neighbours of the double on that grid is in it.

## Main definitions

* `MessageKeys.Interval` — the reals that round to a magnitude, in quarters of a unit.
* `MessageKeys.Decimal` — digits and a decimal exponent.
* `MessageKeys.Decimal.shortest` — the shortest decimal of a magnitude.
-/

namespace MessageKeys

/-- The reals between `low` and `high` quarters of a unit, around `mid`. -/
structure Interval where
  low : Nat
  mid : Nat
  high : Nat
  /-- Whether the ends belong to the interval. -/
  closed : Bool
  deriving DecidableEq, Repr

namespace Interval

/-- The reals that round to a magnitude: up to half of the distance to the doubles beside it. The
double below a power of two is only half as far as the one above. -/
def around (units : Nat) : Interval :=
  let above := Double.step units
  let below := if units = Nat.pow 2 52 * above ∧ 1 < above then above / 2 else above
  { low := 4 * units - 2 * below
    mid := 4 * units
    high := 4 * units + 2 * above
    closed := units / above % 2 == 0 }

/-- Whether `num / den` quarters of a unit lie in the interval. -/
def contains (i : Interval) (num den : Nat) : Bool :=
  if i.closed then i.low * den ≤ num && num ≤ i.high * den
  else i.low * den < num && num < i.high * den

end Interval

/-- The number `digits * 10 ^ exponent`. -/
structure Decimal where
  digits : Nat
  exponent : Int
  deriving DecidableEq, Repr, Inhabited

namespace Decimal

/-- A point `digits` on the grid of multiples of `10 ^ exponent`, in quarters of a unit, as a
quotient. -/
def quarters (exponent : Int) (digits : Nat) : Nat × Nat :=
  if 0 ≤ exponent then (digits * Nat.pow 10 exponent.toNat * (4 * Double.one), 1)
  else (digits * (4 * Double.one), Nat.pow 10 (-exponent).toNat)

/-- Of two neighbouring points on a grid the one nearer to the middle of the interval, on a tie
the even one. -/
def nearer (i : Interval) (exponent : Int) (digits : Nat) : Nat :=
  let (below, den) := quarters exponent digits
  let (above, _) := quarters exponent (digits + 1)
  let down := i.mid * den - below
  let up := above - i.mid * den
  if up < down || (up == down && digits % 2 == 1) then digits + 1 else digits

/-- The point in the interval on the grid of multiples of `10 ^ exponent` that is nearest to the
middle, if there is one. -/
def onGrid? (i : Interval) (exponent : Int) : Option Nat :=
  let (unit, den) := quarters exponent 1
  let digits := i.mid * den / unit
  let inside (d : Nat) := i.contains (quarters exponent d).1 den
  match inside digits, inside (digits + 1) with
  | true, true => some (nearer i exponent digits)
  | true, false => some digits
  | false, true => some (digits + 1)
  | false, false => none

/-- The decimal on the coarsest grid, starting at `10 ^ exponent` and trying finer ones. -/
def coarsest (i : Interval) : (grids : Nat) → (exponent : Int) → Decimal
  | 0, exponent => ⟨0, exponent⟩
  | grids + 1, exponent =>
    match onGrid? i exponent with
    | some digits => ⟨digits, exponent⟩
    | none => coarsest i grids (exponent - 1)

/-- The shortest decimal of a nonzero magnitude. No grid coarser than its leading digit has a
point in the interval but zero and the power of ten above, and the grid of `10 ^ (-324)` has one
for every double. -/
def shortest (units : Nat) : Decimal :=
  let whole := (Nat.toDigits 10 (units / Double.one)).length
  coarsest (Interval.around units) (whole + 325) whole

end Decimal

end MessageKeys
