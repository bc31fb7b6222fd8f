import MessageKeys.Yaml.Basic
import MessageKeys.Yaml.Event

/-!
# Values of YAML scalars

What a plain scalar stands for: nothing, a truth value, a number, or else its text. Whole numbers
may be written with the digits of base 2, 8, 10 or 16, and a number of several decimal digits that
starts with zero is a text. Whole numbers that do not fit into 64 bits are faults up to 128 bits,
and doubles beyond.

## Main definitions

* `MessageKeys.Yaml.isNull`, `MessageKeys.Yaml.bool?`, `MessageKeys.Yaml.integer?`,
  `MessageKeys.Yaml.float?` — the readings of a plain scalar.
* `MessageKeys.Yaml.plainValue` — the value of a plain scalar.
* `MessageKeys.Yaml.scalarValue` — the value of any scalar with its tag.
-/

namespace MessageKeys.Yaml

/-- Whether a plain scalar stands for nothing. -/
def isNull (text : String) : Bool := ["null", "Null", "NULL", "~"].contains text

/-- The truth value that a plain scalar stands for. -/
def bool? (text : String) : Option Bool :=
  if ["true", "True", "TRUE"].contains text then some true
  else if ["false", "False", "FALSE"].contains text then some false
  else none

/-! ### Whole numbers -/

/-- A number with one more digit behind it. -/
def addDigit (base n : Nat) (c : Char) : Option Nat := do
  let d ← hexDigit? c
  if d < base then some (n * base + d) else none

/-- The number that digits spell in a base up to 16. -/
def digitsValue? (base : Nat) (cs : List Char) : Option Nat :=
  if cs.isEmpty then none
  else cs.foldlM (addDigit base) 0

/-- Whether a scalar is several decimal digits of which the first is zero, behind a sign or not. -/
def hasLeadingZero (cs : List Char) : Bool :=
  let digits := match cs with | '-' :: ds | '+' :: ds => ds | ds => ds
  1 < digits.length && digits.head? == some '0' && digits.all Char.isDigit

/-- The base that the mark at the start of a number names, and the digits behind it. -/
def marked? : List Char → Option (Nat × List Char)
  | '0' :: 'x' :: ds => some (16, ds)
  | '0' :: 'o' :: ds => some (8, ds)
  | '0' :: 'b' :: ds => some (2, ds)
  | _ => none

/-- The whole number that a scalar spells. -/
def integer? (cs : List Char) : Option Int :=
  let decimal (ds : List Char) := if hasLeadingZero cs then none else digitsValue? 10 ds
  let magnitude? (ds : List Char) :=
    match marked? ds with
    | some (base, ds) => digitsValue? base ds
    | none => decimal ds
  match cs with
  | '-' :: ds => (magnitude? ds).map fun n => -(n : Int)
  | '+' :: ds => (magnitude? ds).map fun n => (n : Int)
  | ds => (magnitude? ds).map fun n => (n : Int)

/-- Whether a whole number can be a value. -/
inductive Fit where
  /-- It fits into 64 bits. -/
  | value
  /-- It fits into 128 bits only. -/
  | fault
  /-- It does not fit into 128 bits either. -/
  | none
  deriving DecidableEq, Repr

/-- Whether a whole number can be written with some bits, of which one is the sign if it is
negative. -/
def fitsInto (bits : Nat) (n : Int) : Bool :=
  if n < 0 then n.natAbs ≤ Nat.pow 2 (bits - 1) else n.natAbs < Nat.pow 2 bits

/-- How a whole number fits. -/
def fit (n : Int) : Fit :=
  if fitsInto 64 n then .value
  else if fitsInto 128 n then .fault
  else .none

/-! ### Doubles -/

/-- The digits at the start of a text, and the rest. -/
def spanDigits (cs : List Char) : List Char × List Char :=
  (cs.takeWhile Char.isDigit, cs.dropWhile Char.isDigit)

/-- The exponent that takes up a text. -/
def exponentValue? (cs : List Char) : Option Int :=
  match cs with
  | '-' :: ds => (digitsValue? 10 ds).map fun n => -(n : Int)
  | '+' :: ds => (digitsValue? 10 ds).map fun n => (n : Int)
  | ds => (digitsValue? 10 ds).map fun n => (n : Int)

/-- The units of the double that an unsigned decimal number spells, unless it is too large. -/
def magnitude? (cs : List Char) : Option Nat := do
  let (whole, cs) := spanDigits cs
  let (fraction, cs) := match cs with | '.' :: cs => spanDigits cs | cs => ([], cs)
  if whole.isEmpty && fraction.isEmpty then none
  let exponent ←
    match cs with
    | [] => some 0
    | e :: cs => if e == 'e' || e == 'E' then exponentValue? cs else none
  let significand ← digitsValue? 10 (whole ++ fraction)
  Double.ofDecimal? significand (exponent - fraction.length)

/-- The number with a fraction or an exponent, or the special number, that a scalar spells. -/
def float? (text : String) : Option Number :=
  if [".inf", ".Inf", ".INF", "+.inf", "+.Inf", "+.INF"].contains text then some (.infinity false)
  else if ["-.inf", "-.Inf", "-.INF"].contains text then some (.infinity true)
  else if [".nan", ".NaN", ".NAN"].contains text then some .notANumber
  else
    match text.toList with
    | '-' :: cs => (magnitude? cs).map fun units => .double ⟨true, units⟩
    | '+' :: cs => (magnitude? cs).map fun units => .double ⟨false, units⟩
    | cs => (magnitude? cs).map fun units => .double ⟨false, units⟩

/-! ### Scalars -/

/-- The value of a plain scalar. -/
def plainValue (text : String) : Except Fault Yaml :=
  if text.isEmpty || isNull text then .ok .null
  else
    match bool? text, (integer? text.toList).map fun n => (n, fit n) with
    | some b, _ => .ok (.bool b)
    | none, some (n, .value) => .ok (.number (.integer n))
    | none, some (_, .fault) => .error .numberTooLarge
    | none, _ =>
      if hasLeadingZero text.toList then .ok (.string text)
      else
        match float? text with
        | some n => .ok (.number n)
        | none => .ok (.string text)

/-- The value that must be there. -/
def orBadScalar {α : Type} : Option α → Except Fault α
  | some value => .ok value
  | none => .error .badScalar

/-- The value of a scalar. The tags of the core types say which type it has; a scalar with any other
tag is a text. -/
def scalarValue (tag? : Option String) (text : String) (style : ScalarStyle) :
    Except Fault Yaml :=
  match tag? with
  | none => if style = .plain then plainValue text else .ok (.string text)
  | some tag =>
    if tag = "tag:yaml.org,2002:bool" then do return .bool (← orBadScalar (bool? text))
    else if tag = "tag:yaml.org,2002:int" then
      match (integer? text.toList).map fun n => (n, fit n) with
      | some (n, .value) => .ok (.number (.integer n))
      | some (_, .fault) => .error .numberTooLarge
      | _ => .error .badScalar
    else if tag = "tag:yaml.org,2002:float" then do return .number (← orBadScalar (float? text))
    else if tag = "tag:yaml.org,2002:null" then
      if isNull text then .ok .null else .error .badScalar
    else .ok (.string text)

end MessageKeys.Yaml
