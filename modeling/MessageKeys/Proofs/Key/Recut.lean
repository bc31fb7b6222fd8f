import Mathlib.Logic.Relation
import MessageKeys.Proofs.Key.Segmentation
import MessageKeys.Proofs.Key.Span

/-!
# How literal text is cut

An expression can be written in several ways: its literal text may be cut into fragments anywhere,
and empty literals do not count. The boundary is stored as a fragment and a place in it, so it moves
when fragments do, but its place in the evaluated text stays; and the tokens depend on the fragments
through that place and the characters alone.

## Main definitions

* `MessageKeys.Fragment.Joins` — two neighbouring literals are joined, or an empty one is left out.
* `MessageKeys.Boundary.firstOffset?` — the place in the evaluated text of the first separator.
* `MessageKeys.Segments.readAll` — what fragments do to the tokens, by the roles of characters.

## Main results

* `MessageKeys.Boundary.firstOffset?_append` — the first separator of two expressions, one behind
  the other.
* `MessageKeys.Segments.feedAll_eq` — the fragments do what their characters do.
* `MessageKeys.Key.parse_eq_of_eqvGen_joins` — the key does not depend on how literal text is cut.
-/

namespace MessageKeys

namespace Fragment

/-- Two neighbouring literals of an expression are joined, or an empty literal is left out. -/
inductive Joins : List Fragment → List Fragment → Prop
  | join (before : List Fragment) (start rest : String) (after : List Fragment) :
      Joins (before ++ [.literal start, .literal rest] ++ after)
        (before ++ [.literal (start ++ rest)] ++ after)
  | leaveOut (before after : List Fragment) :
      Joins (before ++ [.literal ""] ++ after) (before ++ [] ++ after)

theorem allMarks_literals (start rest : String) :
    allMarks [literal start, literal rest] = allMarks [literal (start ++ rest)] := by
  simp [marks, Mark.row_false_append]

end Fragment

/-! ### The place of the boundary -/

namespace Boundary

variable {ns : Char} {counts : Fragment → Bool}

/-- The place in the evaluated text of the first separator in a fragment that counts. -/
def firstOffset? (ns : Char) (counts : Fragment → Bool) (fragments : List Fragment) :
    Option Nat :=
  (first? ns counts fragments).map fun b => b.offset fragments

@[simp] theorem firstOffset?_nil : firstOffset? ns counts [] = none := rfl

theorem firstOffset?_cons (f : Fragment) (fs : List Fragment) :
    firstOffset? ns counts (f :: fs) =
      ((if counts f then f.resolved.toList.idxOf? ns else none) <|>
        (firstOffset? ns counts fs).map (f.marks.length + ·)) := by
  cases hf : if counts f then f.resolved.toList.idxOf? ns else none with
  | some position => simp [firstOffset?, first?, hf]
  | none => simp [firstOffset?, first?, hf, Function.comp_def]

theorem firstOffset?_append (fs gs : List Fragment) :
    firstOffset? ns counts (fs ++ gs) =
      (firstOffset? ns counts fs <|>
        (firstOffset? ns counts gs).map ((Fragment.allMarks fs).length + ·)) := by
  induction fs with
  | nil => cases hgs : firstOffset? ns counts gs <;> simp [hgs]
  | cons f fs ih =>
    rw [List.cons_append, firstOffset?_cons, firstOffset?_cons, ih]
    cases if counts f then f.resolved.toList.idxOf? ns else none with
    | some position => rfl
    | none =>
      cases firstOffset? ns counts fs with
      | some offset => rfl
      | none => simp [Function.comp_def, Nat.add_assoc]

theorem idxOf?_append (c : Char) (cs ds : List Char) :
    (cs ++ ds).idxOf? c = (cs.idxOf? c <|> (ds.idxOf? c).map (cs.length + ·)) := by
  simp [List.idxOf?, List.findIdx?_append, Nat.add_comm]

/-- Joining two literals does not move the first separator, if either both count or none does. -/
theorem firstOffset?_literals (hcounts : ∀ s t, counts (.literal s) = counts (.literal t))
    (start rest : String) :
    firstOffset? ns counts [.literal start, .literal rest] =
      firstOffset? ns counts [.literal (start ++ rest)] := by
  cases hc : counts (.literal start) with
  | false => simp [firstOffset?_cons, hc, hcounts _ start]
  | true =>
    simp [firstOffset?_cons, hc, hcounts _ start, idxOf?_append,
      Fragment.length_marks, String.length_toList]

theorem firstOffset?_cons_empty (fs : List Fragment) :
    firstOffset? ns counts (.literal "" :: fs) = firstOffset? ns counts fs := by
  rw [firstOffset?_cons]
  cases firstOffset? ns counts fs <;> simp

/-- The place of the boundary in the evaluated text does not depend on how literal text is cut. -/
theorem firstOffset?_eq_of_joins (hcounts : ∀ s t, counts (.literal s) = counts (.literal t))
    {fs gs : List Fragment} (h : Fragment.Joins fs gs) :
    firstOffset? ns counts fs = firstOffset? ns counts gs := by
  cases h with
  | join before start rest after =>
    simp only [firstOffset?_append, firstOffset?_literals hcounts, Fragment.allMarks_append,
      Fragment.allMarks_literals]
  | leaveOut before after =>
    simp [firstOffset?_append, firstOffset?_cons_empty]

theorem find?_map_offset (ns : Char) (fragments : List Fragment) :
    (find? ns fragments).map (fun b => b.offset fragments) =
      (firstOffset? ns Fragment.isLiteral fragments <|>
        firstOffset? ns (fun f => !f.isLiteral) fragments) := by
  rw [find?, firstOffset?, firstOffset?]
  cases first? ns Fragment.isLiteral fragments <;> rfl

end Boundary

/-- The reading of an expression does not depend on how literal text is cut. -/
theorem Reading.ofFragments_eq_of_joins (separators : Separators) {fs gs : List Fragment}
    (h : Fragment.Joins fs gs) : ofFragments separators fs = ofFragments separators gs := by
  have hliteral : Boundary.firstOffset? separators.ns Fragment.isLiteral fs = _ :=
    Boundary.firstOffset?_eq_of_joins (fun _ _ => rfl) h
  have hvalue : Boundary.firstOffset? separators.ns (fun f => !f.isLiteral) fs = _ :=
    Boundary.firstOffset?_eq_of_joins (fun _ _ => rfl) h
  simp only [ofFragments, Boundary.find?_map_offset, hliteral, hvalue]

/-! ### What fragments do -/

namespace Segments

variable {r : Reading} {before : List Mark} {s : Segments} {f : Fragment} {fs : List Fragment}

/-- What a fragment does to the tokens, by the roles of its characters. -/
def readFragment (r : Reading) (before : List Mark) : Fragment → Segments → Segments
  | .literal text, s => s.advanceAll r 1 before (Mark.row false text.toList)
  | .interpolated source value, s =>
    let feed := valueFeed r before value s
    (s.advanceAll r 0 before (Mark.row true value.toList)).charge
      (feed.charged?.getD feed.segments.openIndex)
      (source.length - r.cutsBehind before (Mark.row true value.toList))

/-- What fragments do to the tokens one after the other. -/
def readAll (r : Reading) : (before : List Mark) → List Fragment → Segments → Segments
  | _, [], s => s
  | before, f :: fs, s => readAll r (before ++ f.marks) fs (readFragment r before f s)

theorem feed_eq {here? : Option Nat} (h : Reads r before s)
    (hh : r.Here before.length f.marks.length here?) :
    feed r.key here? f s = readFragment r before f s := by
  cases f with
  | literal text => exact feed_literal h hh
  | interpolated source value => exact feed_interpolated h hh

/-- The fragments do what their characters do; where the boundary was stored does not matter. -/
theorem feedAll_eq {boundary? : Option Boundary} (h : Reads r before s)
    (ha : r.Ahead before.length fs boundary?) :
    feedAll r.key boundary? fs s = readAll r before fs s := by
  induction fs generalizing before s boundary? with
  | nil => rfl
  | cons f fs ih =>
    have hlater : r.Ahead (before ++ f.marks).length fs (boundary?.bind Boundary.later?) := by
      rw [List.length_append]
      exact ha.later
    rw [feedAll, ih (h.feed ha.here) hlater, feed_eq h ha.here]
    rfl

theorem readAll_append (r : Reading) (before : List Mark) (fs gs : List Fragment) (s : Segments) :
    readAll r before (fs ++ gs) s =
      readAll r (before ++ Fragment.allMarks fs) gs (readAll r before fs s) := by
  induction fs generalizing before s with
  | nil => simp [readAll]
  | cons f fs ih => simp [readAll, ih]

theorem readAll_literals (r : Reading) (before : List Mark) (start rest : String)
    (s : Segments) :
    readAll r before [.literal start, .literal rest] s =
      readAll r before [.literal (start ++ rest)] s := by
  simp only [readAll, readFragment, String.toList_append, Mark.row_false_append,
    advanceAll_append]
  rfl

/-- What fragments do to the tokens does not depend on how literal text is cut. -/
theorem readAll_eq_of_joins {gs : List Fragment} (h : Fragment.Joins fs gs) (r : Reading)
    (before : List Mark) (s : Segments) : readAll r before fs s = readAll r before gs s := by
  cases h with
  | join front start rest after =>
    simp only [readAll_append, readAll_literals, Fragment.allMarks_append,
      Fragment.allMarks_literals]
  | leaveOut front after =>
    simp [readAll_append, readAll, readFragment, advanceAll, Fragment.marks]

end Segments

/-! ### Keys -/

namespace Key

variable {separators : Separators} {fs gs : List Fragment}

/-- The tokens of a key are read off the evaluated text and the sources of its values. -/
theorem parse_eq (separators : Separators) (fragments : List Fragment) :
    let r := Reading.ofFragments separators fragments
    let s := Segments.readAll r [] fragments (Segments.start r.boundary?.isNone)
    parse separators fragments =
      { ns? := s.finish.1
        path := s.finish.2
        source := String.join (fragments.map Fragment.source)
        isTemplate := fragments.any fun f => !f.isLiteral
        separators } := by
  intro r s
  have hs : Segments.feedAll r.key (Boundary.find? separators.ns fragments) fragments
      (Segments.start r.boundary?.isNone) = s :=
    Segments.feedAll_eq (Segments.Reads.start r) (Reading.ahead_ofFragments separators fragments)
  have hstart : r.boundary?.isNone = (Boundary.find? separators.ns fragments).isNone := by
    simp [r, Reading.ofFragments]
  rw [← hs, hstart]
  rfl

/-- Joining two literals or leaving out an empty one does not change the key. -/
theorem parse_eq_of_joins (h : Fragment.Joins fs gs) :
    parse separators fs = parse separators gs := by
  have hsource : String.join (fs.map Fragment.source) = String.join (gs.map Fragment.source) := by
    cases h <;> simp [String.join_append, String.append_assoc]
  have htemplate : (fs.any fun f => !f.isLiteral) = gs.any fun f => !f.isLiteral := by
    cases h <;> simp [Fragment.isLiteral]
  rw [parse_eq, parse_eq, Reading.ofFragments_eq_of_joins separators h,
    Segments.readAll_eq_of_joins h, hsource, htemplate]

/-- **Literal text may be cut anywhere.** Two expressions that differ in how their literal text is
cut into fragments, and in empty literals, are the same key, with the same tokens, source and spans:
neighbouring literals may be joined, a literal may be cut at any place, and empty literals may be
put in or left out, all of this as often as one likes. -/
theorem parse_eq_of_eqvGen_joins (h : Relation.EqvGen Fragment.Joins fs gs) :
    parse separators fs = parse separators gs := by
  induction h with
  | rel fs gs h => exact parse_eq_of_joins h
  | refl fs => rfl
  | symm fs gs _ ih => exact ih.symm
  | trans fs gs hs _ _ ih ih' => exact ih.trans ih'

/-- The boundary moves to another fragment, since an empty literal between two values is left out,
and to another place in it, since the literal with the separator is cut in another way. -/
theorem parse_eq_of_eqvGen_joins_boundary :
    let values : List Fragment := [.interpolated "x" "a:b", .interpolated "y" ".c"]
    let fs := [.interpolated "x" "a:b", .literal "", .interpolated "y" ".c", .literal "n",
      .literal ":.m"]
    let gs := values ++ [.literal "n:.", .literal "m"]
    Relation.EqvGen Fragment.Joins fs gs ∧
      Boundary.find? ':' fs ≠ Boundary.find? ':' gs ∧ parse {} fs = parse {} gs := by
  intro values fs gs
  have hleaveOut : Fragment.Joins fs (values ++ [.literal "n", .literal ":.m"]) :=
    .leaveOut [.interpolated "x" "a:b"] [.interpolated "y" ".c", .literal "n", .literal ":.m"]
  have hjoin : Fragment.Joins (values ++ [.literal "n", .literal ":.m"])
      (values ++ [.literal "n:.m"]) := .join values "n" ":.m" []
  have hcut : Fragment.Joins gs (values ++ [.literal "n:.m"]) := .join values "n:." "m" []
  have h : Relation.EqvGen Fragment.Joins fs gs :=
    .trans _ _ _ (.rel _ _ hleaveOut) (.trans _ _ _ (.rel _ _ hjoin) (.symm _ _ (.rel _ _ hcut)))
  exact ⟨h, by decide +kernel, parse_eq_of_eqvGen_joins h⟩

end Key

end MessageKeys
