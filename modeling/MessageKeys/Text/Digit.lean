/-!
# Hexadecimal digits

Code points and bytes are written with hexadecimal digits, in letters of either case.

## Main definitions

* `MessageKeys.hexDigit?` — the value of a digit.
-/

namespace MessageKeys

/-- The value of a hexadecimal digit. -/
def hexDigit? (c : Char) : Option Nat :=
  if c.isDigit then some (c.toNat - '0'.toNat)
  else if 'a' ≤ c ∧ c ≤ 'f' then some (c.toNat - 'a'.toNat + 10)
  else if 'A' ≤ c ∧ c ≤ 'F' then some (c.toNat - 'A'.toNat + 10)
  else none

end MessageKeys
