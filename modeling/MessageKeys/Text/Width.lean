import MessageKeys.Text.Emoji
import MessageKeys.Text.Property

/-!
# Widths of texts

The number of columns that a text takes on a terminal with letters of one width. Most characters
take one column, and ideographs and emoji two; marks and characters that are not shown take none,
but control characters count as one. Some characters are drawn together with those behind them:
emoji sequences, and ligatures of some scripts. A text is therefore measured from its end.

This is the measure that the program is run with. Terminals differ in it, so reports are printed
with any.

## Main definitions

* `MessageKeys.charWidth` — the columns of a character alone.
* `MessageKeys.Behind` — what matters of the text behind a character.
* `MessageKeys.widthBefore` — the columns that a character adds in front of a text.
* `MessageKeys.width` — the columns of a text.
-/

namespace MessageKeys

/-! ### Characters alone -/

/-- Characters that take two columns: those with East_Asian_Width W or F. -/
def wideChars : CharRanges := .ofLines
  ["1100-115f 231a-231b 2329-232a 23e9-23ec 23f0 23f3 25fd-25fe 2614-2615 2630-2637 2648-2653 267f",
   "268a-268f 2693 26a1 26aa-26ab 26bd-26be 26c4-26c5 26ce 26d4 26ea 26f2-26f3 26f5 26fa 26fd 2705",
   "270a-270b 2728 274c 274e 2753-2755 2757 2795-2797 27b0 27bf 2b1b-2b1c 2b50 2b55 2e80-2e99",
   "2e9b-2ef3 2f00-2fd5 2ff0-303e 3041-3096 3099-30ff 3105-312f 3131-318e 3190-31e5 31ef-321e",
   "3220-3247 3250-a48c a490-a4c6 a960-a97c ac00-d7a3 f900-faff fe10-fe19 fe30-fe52 fe54-fe66",
   "fe68-fe6b ff01-ff60 ffe0-ffe6 16fe0-16fe4 16ff0-16ff1 17000-187f7 18800-18cd5 18cff-18d08",
   "1aff0-1aff3 1aff5-1affb 1affd-1affe 1b000-1b122 1b132 1b150-1b152 1b155 1b164-1b167",
   "1b170-1b2fb 1d300-1d356 1d360-1d376 1f004 1f0cf 1f18e 1f191-1f19a 1f200-1f202 1f210-1f23b",
   "1f240-1f248 1f250-1f251 1f260-1f265 1f300-1f320 1f32d-1f335 1f337-1f37c 1f37e-1f393",
   "1f3a0-1f3ca 1f3cf-1f3d3 1f3e0-1f3f0 1f3f4 1f3f8-1f43e 1f440 1f442-1f4fc 1f4ff-1f53d",
   "1f54b-1f54e 1f550-1f567 1f57a 1f595-1f596 1f5a4 1f5fb-1f64f 1f680-1f6c5 1f6cc 1f6d0-1f6d2",
   "1f6d5-1f6d7 1f6dc-1f6df 1f6eb-1f6ec 1f6f4-1f6fc 1f7e0-1f7eb 1f7f0 1f90c-1f93a 1f93c-1f945",
   "1f947-1f9ff 1fa70-1fa7c 1fa80-1fa89 1fa8f-1fac6 1face-1fadc 1fadf-1fae9 1faf0-1faf8",
   "20000-2fffd 30000-3fffd"]

/-- Marks and signs that take no column although they neither extend the character before them nor
are ignored. -/
def otherZeroWidth : CharRanges := .ofLines
  ["605 70f 890-891 8e2 cc0 cc7-cc8 cca-ccb 1160-11ff 1b3b 1b3d 1b43 a8fa d7b0-d7c6 d7cb-d7fb"]

/-- Whether a character takes no column. -/
def isZeroWidth (c : Char) : Bool :=
  defaultIgnorable.contains c || isGraphemeExtend c || otherZeroWidth.contains c

/-- The columns of a character alone. -/
def charWidth (c : Char) : Nat :=
  if c.toNat ≤ 0xa0 then 1
  else if c = '\u115f' || c = '\u17a4' then 2
  else if c = '\u17d8' then 3
  else if isZeroWidth c then 0
  else if wideChars.contains c then 2
  else 1

/-! ### Characters in front of others -/

/-- Characters with Joining_Group Alef. -/
def arabicAlefs : CharRanges := .ofLines
  ["622-623 625 627 671-673 675 773-774 870-882"]

/-- Characters with Joining_Group Lam. -/
def arabicLams : CharRanges := .ofLines
  ["644 6b5-6b8 76a 8a6 8c7"]

/-- The letters that become signs without a column behind a Khmer coeng. -/
def khmerCoengLetters : CharRanges := .ofLines
  ["1780-1782 1784-1787 1789-178c 178e-1793 1795-1798 179b-179d 17a0 17a2 17a7 17ab-17ac 17af"]

/-- The consonants of Tifinagh. -/
def tifinaghConsonants : CharRanges := .ofLines ["2d31-2d65 2d6f"]

/-- What matters of the text behind a character. -/
inductive Behind where
  /-- Nothing that could be drawn together with the character. -/
  | other
  /-- A letter, with a joiner between or not. -/
  | letter (c : Char) (joined : Bool)
  /-- A sign that joins the letter in front of it to the one behind it. -/
  | joint (sign : Char)
  /-- An emoji, with a joiner between or not. -/
  | emoji (joined : Bool)
  /-- An emoji modifier. -/
  | modifier
  /-- The emoji selector; there may be an emoji with a joiner behind it. -/
  | emojiSelector (joined : Bool)
  /-- The text selector. -/
  | textSelector
  deriving DecidableEq, Repr

/-- Whether a character and a letter behind it form a ligature that takes the column of the letter
only. -/
def formsLigature (c letter : Char) (joined : Bool) : Bool :=
  match joined with
  | false =>
    (c == '\r' && letter == '\n') ||
      (arabicLams.contains c && arabicAlefs.contains letter) ||
      ('\ua4f8' ≤ c && c ≤ '\ua4fb' && '\ua4fc' ≤ letter && letter ≤ '\ua4fd')
  | true =>
    (c == '\u05d0' && letter == '\u05dc') ||
      (tifinaghConsonants.contains c && tifinaghConsonants.contains letter) ||
      (c.toNat == 0x10c32 && letter.toNat == 0x10c03)

/-- The columns of a Kirat Rai vowel sign in front of another with which it forms one, and what they
are to the characters before them. -/
def kiratRai? (c letter : Char) : Option (Int × Behind) :=
  match letter.toNat, c.toNat with
  | 0x16d67, 0x16d63 | 0x16d67, 0x16d69 | 0x16d68, 0x16d63 => some (0, .other)
  | 0x16d67, 0x16d67 => some (0, .letter (Char.ofNat 0x16d68) false)
  | 0x16d67, 0x16d68 => some (1, .letter letter false)
  | _, _ => none

/-- Whether a character without a column does not keep the characters around it from forming a
ligature with `letter`. -/
def isTransparent (c letter : Char) : Bool :=
  isZeroWidth c && c != '\u200c' && c != '\u200d' &&
    (defaultIgnorable.contains c || arabicAlefs.contains letter)

/-- The columns that a character adds where nothing behind it matters, and what it is to the
characters before it. -/
def widthAlone (c : Char) : Int × Behind :=
  (charWidth c,
    if c = '\ufe0f' then .emojiSelector false
    else if c = '\ufe0e' then .textSelector
    else if isEmojiModifier c then .modifier
    else if emojiByDefault.contains c then .emoji false
    else .letter c false)

/-- The columns that a character adds in front of a text, and what it is to the characters before
it. -/
def widthBefore (c : Char) : Behind → Int × Behind
  | .emojiSelector joined =>
    if startsEmojiSequence c then (if joined then 0 else 2, .emoji false) else widthAlone c
  | .textSelector => if startsTextSequence c then (1, .other) else widthAlone c
  | .modifier =>
    if emojiModifierBases.contains c then (0, .emoji false)
    else if c = '\u200d' then (0, .emoji true)
    else widthAlone c
  | .emoji false => if c = '\u200d' then (0, .emoji true) else widthAlone c
  | .emoji true =>
    if c = '\ufe0f' then (0, .emojiSelector true)
    else if isEmojiModifier c then (0, .modifier)
    else if emojiByDefault.contains c then (0, .emoji false)
    else widthAlone c
  | .letter letter joined =>
    if formsLigature c letter joined then (0, .other)
    else if c = '\u17d2' && khmerCoengLetters.contains letter && !joined then (-1, .other)
    else if c = '\u1a17' && letter = '\u1a10' && joined then (0, .joint c)
    else if c = '\u2d7f' && tifinaghConsonants.contains letter then (1, .joint c)
    else if c = '\u200d' then (0, .letter letter true)
    else if c != '\ufe0f' && c != '\ufe0e' && isTransparent c letter then (0, .letter letter joined)
    else if joined then widthAlone c
    else (kiratRai? c letter).getD (widthAlone c)
  | .joint sign =>
    if sign = '\u1a17' && c = '\u1a15' then (0, .other)
    else if sign = '\u2d7f' && tifinaghConsonants.contains c then (-1, .other)
    else widthAlone c
  | .other => widthAlone c

/-! ### Texts -/

/-- The columns of the characters of a text, and what they are to a character before them. -/
def widthOf : List Char → Int × Behind
  | [] => (0, .other)
  | c :: cs =>
    let (columns, behind) := widthOf cs
    let (added, here) := widthBefore c behind
    (columns + added, here)

/-- The columns of a text. -/
def width (text : String) : Nat := (widthOf text.toList).1.toNat

end MessageKeys
