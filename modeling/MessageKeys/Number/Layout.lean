import MessageKeys.Number.Shortest

/-!
# Layout of decimal numbers

How a double is spelled: in full while its decimal point is near its digits, and otherwise in
scientific form. A spelling in full always shows a point, so that it does not look like a whole
number.

## Main definitions

* `MessageKeys.DecimalLayout` — the decisions that a format makes.
* `MessageKeys.DecimalLayout.text` — the spelling of a double.
-/

namespace MessageKeys

/-- The decisions of a format about the spelling of doubles. The *point* of a number is the number
of its digits before the decimal point, zero or negative for small numbers. -/
structure DecimalLayout where
  /-- Numbers with at most this point are spelled in scientific form. -/
  smallPoint : Int := -5
  /-- Numbers with more than this point are spelled in scientific form. -/
  largePoint : Int := 16
  /-- What stands before an exponent that is not negative. -/
  plus : String
  deriving Repr

namespace DecimalLayout

private def zeros (n : Int) : String := String.ofList (List.replicate n.toNat '0')

/-- The spelling of a positive decimal number. -/
def decimalText (layout : DecimalLayout) (d : Decimal) : String :=
  let ds := Nat.toDigits 10 d.digits
  let point := d.exponent + ds.length
  if layout.smallPoint < point ∧ point ≤ layout.largePoint then
    if 0 ≤ d.exponent then String.ofList ds ++ zeros d.exponent ++ ".0"
    else if 0 < point then
      String.ofList (ds.take point.toNat) ++ "." ++ String.ofList (ds.drop point.toNat)
    else "0." ++ zeros (-point) ++ String.ofList ds
  else
    let fraction := if ds.length = 1 then "" else "." ++ String.ofList (ds.drop 1)
    let exponent := point - 1
    String.ofList (ds.take 1) ++ fraction ++ "e" ++
      (if exponent < 0 then "-" else layout.plus) ++ exponent.natAbs.repr

/-- The spelling of a double: the shortest decimal that reads back as it. -/
def text (layout : DecimalLayout) (x : Double) : String :=
  (if x.negative then "-" else "") ++
    if x.units = 0 then "0.0" else layout.decimalText (Decimal.shortest x.units)

end DecimalLayout

end MessageKeys
