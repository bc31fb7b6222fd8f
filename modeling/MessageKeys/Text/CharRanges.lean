/-!
# Ranges of characters

Sets of characters that the Unicode standard lists, as tables of ranges of code points. A table is
written as hexadecimal numbers in order, `41-5a aa b5` for instance, and looked up by bisection.

## Main definitions

* `MessageKeys.lastAtMost?` — the value of the last row of a table that starts at most at a key.
* `MessageKeys.CharRanges` — a table of ranges, with `CharRanges.ofLines` and
  `CharRanges.contains`.
-/

namespace MessageKeys

/-- Halves the rows `low`, …, `high - 1` of a table until one is left: the last whose start is at
most `key`, if the first one is. -/
def bisect {α : Type} (table : Array (Nat × α)) (key low high : Nat) : Option α :=
  if high ≤ low + 1 then
    match table[low]? with
    | some (start, value) => if start ≤ key then some value else none
    | none => none
  else
    let middle := (low + high) / 2
    match table[middle]? with
    | some (start, _) =>
      if start ≤ key then bisect table key middle high else bisect table key low middle
    | none => none
termination_by high - low

/-- The value of the last row of a table, sorted by its starts, that starts at most at `key`. -/
def lastAtMost? {α : Type} (table : Array (Nat × α)) (key : Nat) : Option α :=
  bisect table key 0 table.size

/-- A set of characters as a table of ranges: where each range starts, and its last code point. -/
structure CharRanges where
  rows : Array (Nat × Nat)
  deriving Inhabited

namespace CharRanges

/-- The number that hexadecimal digits in lower case spell. -/
def hexNumber (cs : List Char) : Nat :=
  cs.foldl (fun n c => n * 16 + (if c.isDigit then c.toNat - 48 else c.toNat - 87)) 0

/-- The range that a text writes. -/
def readRange (cs : List Char) : Nat × Nat :=
  let first := cs.takeWhile (· != '-')
  match cs.dropWhile (· != '-') with
  | [] => (hexNumber first, hexNumber first)
  | _ :: last => (hexNumber first, hexNumber last)

/-- The table that some lines write. -/
def ofLines (lines : List String) : CharRanges :=
  ⟨((lines.flatMap fun line => line.splitOn " ").map fun range => readRange range.toList).toArray⟩

/-- Whether a code point is in the set. -/
def holds (r : CharRanges) (n : Nat) : Bool :=
  match lastAtMost? r.rows n with
  | some last => n ≤ last
  | none => false

/-- Whether a character is in the set. -/
def contains (r : CharRanges) (c : Char) : Bool := r.holds c.toNat

end CharRanges

end MessageKeys
