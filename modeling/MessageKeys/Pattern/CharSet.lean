import MessageKeys.Text.Blank
import MessageKeys.Text.CaseFold
import MessageKeys.Text.Digit
import MessageKeys.Text.Emoji
import MessageKeys.Text.Property
import MessageKeys.Text.Script

/-!
# Sets of characters

The sets that patterns describe: ranges and properties of characters, and what set operations and
case folding make of them.

## Main definitions

* `MessageKeys.CharProperty` — properties of characters, with `CharProperty.holds`.
* `MessageKeys.CharSet` — sets of characters, with `CharSet.contains`.
-/

namespace MessageKeys

/-- A property of characters. -/
inductive CharProperty where
  | any
  | assigned
  | ascii
  | category (k : Category)
  /-- A category of this kind. -/
  | kind (k : Char)
  | casedLetter
  | alphabetic
  | uppercase
  | lowercase
  | blank
  | word
  | defaultIgnorable
  | graphemeExtend
  | joinControl
  | asciiHexDigit
  | hexDigit
  | emoji
  | emojiByDefault
  | emojiModifier
  | emojiModifierBase
  | script (code : String)
  deriving DecidableEq, Repr

namespace CharProperty

/-- Whether a character is a hexadecimal digit of full width. -/
def isWideHexDigit (c : Char) : Bool :=
  ('\uff10' ≤ c && c ≤ '\uff19') || ('\uff21' ≤ c && c ≤ '\uff26') ||
    ('\uff41' ≤ c && c ≤ '\uff46')

/-- Whether a character has a property. -/
def holds (c : Char) : CharProperty → Bool
  | any => true
  | assigned => MessageKeys.category c != .unassigned
  | ascii => c.toNat < 0x80
  | category k => MessageKeys.category c == k
  | kind k => hasKind k c
  | casedLetter =>
    [Category.uppercaseLetter, .lowercaseLetter, .titlecaseLetter].contains (MessageKeys.category c)
  | alphabetic => isAlphabetic c
  | uppercase => isUppercase c
  | lowercase => isLowercase c
  | blank => isBlankChar c
  | word => isWordChar c
  | defaultIgnorable => MessageKeys.defaultIgnorable.contains c
  | graphemeExtend => isGraphemeExtend c
  | joinControl => isJoinControl c
  | asciiHexDigit => (hexDigit? c).isSome
  | hexDigit => (hexDigit? c).isSome || isWideHexDigit c
  | emoji => MessageKeys.emojiByDefault.contains c || emojiOnRequest.contains c
  | emojiByDefault => MessageKeys.emojiByDefault.contains c
  | emojiModifier => isEmojiModifier c
  | emojiModifierBase => emojiModifierBases.contains c
  | script code => MessageKeys.script c == code

/-- About how many ranges the characters with a property make up. -/
def ranges : CharProperty → Nat
  | any | ascii | joinControl | emojiModifier => 1
  | category k => categoryTable.toList.countP fun row => row.2 == k
  | kind k => categoryTable.toList.countP fun row => row.2.code.1 == k
  | script code => scriptTable.toList.countP fun row => row.2 == code
  | assigned | alphabetic | uppercase | lowercase | word | casedLetter => 700
  | graphemeExtend => 370
  | emoji | emojiByDefault | emojiModifierBase => 100
  | blank | defaultIgnorable | asciiHexDigit | hexDigit => 10

end CharProperty

/-! ### Sets -/

/-- A set of characters. -/
inductive CharSet where
  | none
  | range (first last : Char)
  | property (p : CharProperty)
  | union (s t : CharSet)
  | inter (s t : CharSet)
  | diff (s t : CharSet)
  | complement (s : CharSet)
  /-- The characters that differ from one of the set in case only, which may be looked at in ASCII
  letters only. -/
  | anyCase (asciiOnly : Bool) (s : CharSet)
  deriving DecidableEq, Repr, Inhabited

namespace CharSet

/-- Whether a character is in the set. -/
def contains : CharSet → Char → Bool
  | none, _ => false
  | range first last, c => first ≤ c && c ≤ last
  | property p, c => p.holds c
  | union s t, c => s.contains c || t.contains c
  | inter s t, c => s.contains c && t.contains c
  | diff s t, c => s.contains c && !t.contains c
  | complement s, c => !s.contains c
  | anyCase true s, c => (sameButAsciiCase c).any s.contains
  | anyCase false s, c => (sameButCase c).any s.contains

/-- The set of one character. -/
def single (c : Char) : CharSet := range c c

/-- The set of all characters. -/
def all : CharSet := complement none

/-- The union of some sets. -/
def unions (sets : List CharSet) : CharSet := sets.foldr union none

/-- The characters that are in one set only. -/
def symmDiff (s t : CharSet) : CharSet := union (diff s t) (diff t s)

/-- About how many ranges a set is made up of. -/
def ranges : CharSet → Nat
  | none => 0
  | range _ _ => 1
  | property p => p.ranges
  | union s t | inter s t | diff s t => s.ranges + t.ranges
  | complement s => s.ranges + 1
  | anyCase _ s => 2 * s.ranges

end CharSet

end MessageKeys
