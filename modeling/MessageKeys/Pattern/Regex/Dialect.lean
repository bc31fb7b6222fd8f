import MessageKeys.Pattern.Regex.Basic

/-!
# Dialects of regular expressions

How an expression is written is settled, but not which properties of characters have a name, nor how
large an expression may be. This is a *dialect*, and expressions are read in any of them. There are
some hundred names of properties, and which characters have them changes from one version of Unicode
to the next. The dialect `basic` knows the general categories, the scripts and a few properties of
their own, and no other names. In a name of it case, blanks, hyphens and underscores do not matter,
nor does `is` at the start.

## Main definitions

* `MessageKeys.Regex.Dialect` — a dialect.
* `MessageKeys.CharProperty.named?`, `MessageKeys.CharProperty.valued?` — some properties by name.
* `MessageKeys.Regex.size` — about how large an expression is.
* `MessageKeys.Regex.Dialect.basic` — the dialect with these names and a bound on this size.
-/

namespace MessageKeys

/-- A dialect of regular expressions. -/
class Regex.Dialect where
  /-- The characters that have the property of this name, or are in the category or the script. -/
  named? : (name : String) → Option CharSet
  /-- The characters for which the property of this name has this value. -/
  valued? : (name value : String) → Option CharSet
  /-- Whether an expression is small enough. -/
  fits : Regex → Bool
  /-- A part of a sequence is no larger than the sequence. -/
  fits_of_seq : ∀ r s, fits (.seq r s) = true → fits r = true ∧ fits s = true

namespace CharProperty

/-! ### Names -/

/-- The letters and digits of a name, in lower case. -/
def compact (cs : List Char) : List Char :=
  (cs.filter fun c => c.toNat < 0x80 && c != ' ' && c != '_' && c != '-').map Char.toLower

/-- A name without what does not matter in it. -/
def normalName (name : String) : String :=
  match name.toList with
  | i :: s :: rest =>
    if i.toLower = 'i' && s.toLower = 's' then
      if compact rest = ['c'] then "isc" else String.ofList (compact rest)
    else String.ofList (compact (i :: s :: rest))
  | cs => String.ofList (compact cs)

/-- The properties that have names of their own. -/
def binaryNames : List (String × CharProperty) :=
  [("alphabetic", alphabetic), ("alpha", alphabetic), ("uppercase", uppercase),
    ("upper", uppercase), ("lowercase", lowercase), ("lower", lowercase),
    ("whitespace", blank), ("wspace", blank), ("space", blank),
    ("defaultignorablecodepoint", defaultIgnorable), ("di", defaultIgnorable),
    ("graphemeextend", graphemeExtend), ("grext", graphemeExtend), ("joincontrol", joinControl),
    ("joinc", joinControl), ("asciihexdigit", asciiHexDigit), ("ahex", asciiHexDigit),
    ("hexdigit", hexDigit), ("hex", hexDigit), ("emoji", emoji),
    ("emojipresentation", emojiByDefault), ("epres", emojiByDefault),
    ("emojimodifier", emojiModifier), ("emod", emojiModifier),
    ("emojimodifierbase", emojiModifierBase), ("ebase", emojiModifierBase)]

/-- The names of categories beside their codes. -/
def categoryNames : List (String × CharProperty) :=
  [("any", any), ("assigned", assigned), ("ascii", ascii), ("lc", casedLetter),
    ("casedletter", casedLetter), ("letter", kind 'L'), ("mark", kind 'M'),
    ("combiningmark", kind 'M'), ("number", kind 'N'), ("punctuation", kind 'P'),
    ("punct", kind 'P'), ("symbol", kind 'S'), ("separator", kind 'Z'), ("other", kind 'C'),
    ("uppercaseletter", category .uppercaseLetter), ("lowercaseletter", category .lowercaseLetter),
    ("titlecaseletter", category .titlecaseLetter), ("modifierletter", category .modifierLetter),
    ("otherletter", category .otherLetter), ("nonspacingmark", category .nonspacingMark),
    ("spacingmark", category .spacingMark), ("enclosingmark", category .enclosingMark),
    ("decimalnumber", category .decimalNumber), ("digit", category .decimalNumber),
    ("letternumber", category .letterNumber), ("othernumber", category .otherNumber),
    ("connectorpunctuation", category .connectorPunctuation),
    ("dashpunctuation", category .dashPunctuation), ("openpunctuation", category .openPunctuation),
    ("closepunctuation", category .closePunctuation),
    ("initialpunctuation", category .initialPunctuation),
    ("finalpunctuation", category .finalPunctuation),
    ("otherpunctuation", category .otherPunctuation), ("mathsymbol", category .mathSymbol),
    ("currencysymbol", category .currencySymbol), ("modifiersymbol", category .modifierSymbol),
    ("othersymbol", category .otherSymbol), ("spaceseparator", category .spaceSeparator),
    ("lineseparator", category .lineSeparator),
    ("paragraphseparator", category .paragraphSeparator), ("control", category .control),
    ("cntrl", category .control), ("format", category .format),
    ("privateuse", category .privateUse), ("unassigned", category .unassigned)]

/-- The category or the kind of categories with a normal name. Characters are never surrogates, and
there is no name for that category. -/
def category? (name : String) : Option CharProperty :=
  match categoryNames.lookup name with
  | some property => some property
  | none =>
    match name.toList with
    | [k] => if ['l', 'm', 'n', 'p', 's', 'z', 'c'].contains k then some (kind k.toUpper) else none
    | [k, among] =>
      match Category.ofCode? k.toUpper among with
      | some .surrogate => none
      | found => found.map category
    | _ => none

/-- The script with a normal name or code. -/
def script? (name : String) : Option CharProperty :=
  (scriptNames.find? fun pair => normalName pair.1 == name || normalName pair.2 == name).map
    fun pair => script pair.1

/-- The property with a name: one that has a name of its own, or else a category or a script. -/
def named? (name : String) : Option CharProperty :=
  let name := normalName name
  binaryNames.lookup name <|> category? name <|> script? name

/-- The property of having a value of the category or of the script. -/
def valued? (name value : String) : Option CharProperty :=
  match normalName name with
  | "gc" | "generalcategory" => category? (normalName value)
  | "sc" | "script" => script? (normalName value)
  | _ => none

end CharProperty

namespace Regex

/-! ### Size -/

/-- The least size that an expression with one step may take. -/
def stepSize : Nat := 32

/-- About how much room a set takes. -/
def setSize : CharSet → Nat
  | .range first last => if first = last then stepSize * first.utf8Size else 2 * stepSize
  | s => 2 * stepSize * (s.ranges + 1)

/-- About how much room an expression takes when its repetitions are written out. -/
def size : Regex → Nat
  | empty => stepSize
  | chars s => setSize s
  | look _ => stepSize
  | seq r s => r.size + s.size
  | alt r s => r.size + s.size + stepSize
  | repetition r min max? => (max 1 (max?.getD min)) * r.size

/-- The room that an expression may take. -/
def sizeBound : Nat := 10 * 1024 * 1024

/-! ### A dialect -/

/-- The dialect that knows only the names of properties above. -/
@[reducible] def Dialect.basic : Dialect where
  named? name := (CharProperty.named? name).map .property
  valued? name value := (CharProperty.valued? name value).map .property
  fits r := r.size ≤ sizeBound
  fits_of_seq r s h := by
    have hsize : r.size + s.size ≤ sizeBound := of_decide_eq_true h
    exact ⟨decide_eq_true (by omega), decide_eq_true (by omega)⟩

end Regex

end MessageKeys
