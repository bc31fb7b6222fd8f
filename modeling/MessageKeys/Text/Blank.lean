/-!
# Blank text

The characters with the Unicode property White_Space, which leave no mark.

## Main definitions

* `MessageKeys.isBlankChar` — the property.
* `MessageKeys.isBlank` — texts of such characters only.
-/

namespace MessageKeys

/-- Whether a character has the property White_Space. -/
def isBlankChar (c : Char) : Bool :=
  let n := c.toNat
  (0x09 ≤ n && n ≤ 0x0d) || n == 0x20 || n == 0x85 || n == 0xa0 || n == 0x1680 ||
    (0x2000 ≤ n && n ≤ 0x200a) || n == 0x2028 || n == 0x2029 || n == 0x202f || n == 0x205f ||
    n == 0x3000

/-- Whether a text leaves no mark. -/
def isBlank (text : String) : Bool := text.toList.all isBlankChar

end MessageKeys
