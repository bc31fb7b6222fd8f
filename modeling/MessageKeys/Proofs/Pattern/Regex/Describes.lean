import Mathlib.Logic.Function.Iterate
import MessageKeys.Pattern.Regex.Basic

/-!
# What regular expressions describe

A regular expression describes pieces of a text, each given by the place where it starts and the
place where it ends. This is said here by recursion on the expression, with the pieces of a
repetition behind each other: a character of the set, the empty piece at a place where the condition
holds, two pieces behind each other, a piece of one of two expressions, any admitted number of
pieces. Moving marks over the text finds exactly these pieces. For a repetition without a greatest
number of pieces this takes the argument that marks which were moved, and kept, as often as the text
has places do not change any more: each round before marks one more place.

## Main definitions

* `MessageKeys.Regex.Describes` — the pieces of a text that an expression describes.
* `MessageKeys.Regex.DescribesAll` — the whole text is such a piece.

## Main results

* `MessageKeys.Regex.isMarked_advance_iff` — the marks after moving them by an expression.
* `MessageKeys.Regex.occursIn_iff` — an expression occurs in a text if it describes a piece of it.
* `MessageKeys.Regex.occursIn_whole_iff` — an expression between the ends of a text.
-/

namespace MessageKeys.Regex

variable {text : List Char} {marks others : Marks} {i j : Nat}

/-! ### Pieces of a text -/

/-- `n` pieces behind each other, each of which `R` admits. -/
def Times (R : Nat → Nat → Prop) : (n : Nat) → Nat → Nat → Prop
  | 0, i, j => i = j
  | n + 1, i, j => ∃ k, R i k ∧ Times R n k j

/-- The character before a place. -/
def charBefore (text : List Char) : (i : Nat) → Option Char
  | 0 => none
  | i + 1 => text[i]?

/-- The pieces of a text that an expression describes, from place `i` to place `j`. -/
def Describes (text : List Char) : Regex → (i j : Nat) → Prop
  | empty, i, j => i = j
  | chars s, i, j => (∃ c, text[i]? = some c ∧ s.contains c = true) ∧ j = i + 1
  | look l, i, j => l.holds (charBefore text i) text[i]? = true ∧ i = j
  | seq r s, i, j => ∃ k, r.Describes text i k ∧ s.Describes text k j
  | alt r s, i, j => r.Describes text i j ∨ s.Describes text i j
  | repetition r min max?, i, j =>
    ∃ n, min ≤ n ∧ (∀ most, max? = some most → n ≤ max min most) ∧ Times (r.Describes text) n i j

/-- The whole text is a piece that the expression describes. -/
def DescribesAll (r : Regex) (text : String) : Prop := r.Describes text.toList 0 text.length

theorem times_add {R : Nat → Nat → Prop} {m n : Nat} :
    Times R (m + n) i j ↔ ∃ k, Times R m i k ∧ Times R n k j := by
  induction m generalizing i with
  | zero => simp [Times]
  | succ m ih =>
    rw [Nat.succ_add]
    simp only [Times, ih]
    grind

/-! ### Marks -/

/-- The place `i` is marked. -/
def IsMarked (marks : Marks) (i : Nat) : Prop := marks[i]? = some true

theorem IsMarked.lt_length (h : IsMarked marks i) : i < marks.length :=
  (List.getElem?_eq_some_iff.mp h).1

theorem length_everywhere (text : List Char) : (everywhere text).length = text.length + 1 := by
  simp [everywhere]

theorem isMarked_everywhere_iff : IsMarked (everywhere text) i ↔ i ≤ text.length := by
  simp only [IsMarked, everywhere, List.getElem?_replicate, Option.ite_none_right_eq_some, and_true]
  exact Nat.lt_succ_iff

theorem any_id_iff : marks.any id = true ↔ ∃ i, IsMarked marks i := by
  simp [IsMarked, ← List.mem_iff_getElem?]

/-! ### Moving marks by a single condition -/

theorem length_step (s : CharSet) (h : marks.length = text.length + 1) :
    (step s text marks).length = text.length + 1 := by
  simp [step, h]

theorem isMarked_step_iff (s : CharSet) :
    IsMarked (step s text marks) j ↔
      ∃ i, IsMarked marks i ∧ (chars s).Describes text i j := by
  cases j with
  | zero => simp [IsMarked, step, Describes]
  | succ j =>
    simp only [IsMarked, step, Describes, List.getElem?_cons_succ, List.getElem?_zipWith]
    cases htext : text[j]? <;> cases hmark : marks[j]? <;> grind

theorem length_around (before? : Option Char) (text : List Char) :
    (around before? text).length = text.length + 1 := by
  induction text generalizing before? with
  | nil => rfl
  | cons c text ih => simp [around, ih]

theorem getElem?_around (before? : Option Char) (text : List Char) (h : i ≤ text.length) :
    (around before? text)[i]? =
      some (if i = 0 then before? else charBefore text i, text[i]?) := by
  induction text generalizing before? i with
  | nil =>
    obtain rfl : i = 0 := by simpa using h
    rfl
  | cons c text ih =>
    cases i with
    | zero => rfl
    | succ i =>
      rw [around, List.getElem?_cons_succ, ih _ (by simpa using h)]
      cases i <;> simp [charBefore]

theorem length_keep (l : Look) (h : marks.length = text.length + 1) :
    (keep l text marks).length = text.length + 1 := by
  simp [keep, h, length_around]

theorem isMarked_keep_iff (l : Look) (h : marks.length = text.length + 1) :
    IsMarked (keep l text marks) j ↔
      ∃ i, IsMarked marks i ∧ (look l).Describes text i j := by
  simp only [IsMarked, keep, Describes, List.getElem?_zipWith]
  by_cases hj : j < marks.length
  · have hplace := getElem?_around none text (i := j) (by omega)
    have hbefore : (if j = 0 then none else charBefore text j) = charBefore text j := by
      cases j <;> rfl
    rw [hplace, hbefore]
    cases hmark : marks[j]? <;> grind
  · have hnone : marks[j]? = none := List.getElem?_eq_none (by omega)
    grind

/-! ### Marks of two lists -/

theorem length_merge (h : marks.length = others.length) :
    (merge marks others).length = others.length := by
  simp [merge, h]

theorem isMarked_merge_iff (h : marks.length = others.length) :
    IsMarked (merge marks others) i ↔ IsMarked marks i ∨ IsMarked others i := by
  simp only [IsMarked, merge, List.getElem?_zipWith]
  by_cases hi : i < marks.length
  · simp [List.getElem?_eq_getElem hi, List.getElem?_eq_getElem (h ▸ hi)]
  · have hmarks : marks[i]? = none := List.getElem?_eq_none (by omega)
    have hothers : others[i]? = none := List.getElem?_eq_none (by omega)
    simp [hmarks, hothers]

/-- Marks that are added to others are there already, or there are more marks than before. -/
theorem merge_eq_or_count_lt (h : marks.length = others.length) :
    merge marks others = marks ∨ marks.count true < (merge marks others).count true := by
  induction marks generalizing others with
  | nil => exact .inl (by simp [merge])
  | cons mark marks ih =>
    cases others with
    | nil => simp at h
    | cons other others =>
      have hlength : marks.length = others.length := by simpa using h
      have htail := ih hlength
      simp only [merge, List.zipWith_cons_cons] at htail ⊢
      cases mark <;> cases other <;> grind

/-! ### Moving marks many times -/

/-- Moves marks and keeps those that were there. -/
def grow (move : Marks → Marks) (marks : Marks) : Marks := merge marks (move marks)

theorem moveTimes_eq (move : Marks → Marks) (n : Nat) (marks : Marks) :
    moveTimes move n marks = move^[n] marks := by
  induction n generalizing marks with
  | zero => rfl
  | succ n ih =>
    rw [moveTimes, Function.iterate_succ_apply]
    split
    next h => rw [h, Function.iterate_fixed h]
    next => exact ih _

section Moving

variable {m n : Nat} {move : Marks → Marks} {R : Nat → Nat → Prop}
  (hlength : ∀ marks : Marks, marks.length = m → (move marks).length = m)
  (hmove : ∀ marks : Marks, marks.length = m → ∀ j,
    IsMarked (move marks) j ↔ ∃ i, IsMarked marks i ∧ R i j)

include hlength in
theorem length_iterate (h : marks.length = m) : (move^[n] marks).length = m := by
  induction n generalizing marks with
  | zero => exact h
  | succ n ih => exact ih (hlength marks h)

include hlength hmove in
theorem isMarked_iterate_iff (h : marks.length = m) :
    IsMarked (move^[n] marks) j ↔ ∃ i, IsMarked marks i ∧ Times R n i j := by
  induction n generalizing marks with
  | zero => simp [Times]
  | succ n ih =>
    rw [Function.iterate_succ_apply, ih (hlength marks h)]
    simp only [hmove marks h, Times]
    grind

include hlength in
theorem length_grow (h : marks.length = m) : (grow move marks).length = m :=
  (length_merge (h.trans (hlength marks h).symm)).trans (hlength marks h)

include hlength in
theorem length_iterate_grow (h : marks.length = m) : ((grow move)^[n] marks).length = m :=
  length_iterate (fun _ => length_grow hlength) h

include hlength hmove in
theorem isMarked_iterate_grow_iff (h : marks.length = m) :
    IsMarked ((grow move)^[n] marks) j ↔ ∃ k ≤ n, ∃ i, IsMarked marks i ∧ Times R k i j := by
  induction n generalizing marks with
  | zero => simp [Times]
  | succ n ih =>
    have hmarks (i : Nat) : IsMarked (grow move marks) i ↔
        IsMarked marks i ∨ ∃ k, IsMarked marks k ∧ R k i := by
      rw [grow, isMarked_merge_iff (h.trans (hlength marks h).symm), hmove marks h]
    rw [Function.iterate_succ_apply, ih (length_grow hlength h)]
    simp only [hmarks]
    constructor
    · rintro ⟨k, hk, i, hi | ⟨i', hi', hR⟩, htimes⟩
      · exact ⟨k, by omega, i, hi, htimes⟩
      · exact ⟨k + 1, by omega, i', hi', i, hR, htimes⟩
    · rintro ⟨k, hk, i, hi, htimes⟩
      cases k with
      | zero => exact ⟨0, by omega, i, .inl hi, htimes⟩
      | succ k =>
        obtain ⟨i', hR, htimes⟩ := htimes
        exact ⟨k, by omega, i', .inr ⟨i, hi, hR⟩, htimes⟩

include hlength in
/-- Each round of growing marks one more place, or nothing changes any more. -/
theorem le_count_or_grow_eq (h : marks.length = m) :
    n ≤ ((grow move)^[n] marks).count true ∨
      grow move ((grow move)^[n] marks) = (grow move)^[n] marks := by
  induction n with
  | zero => exact .inl (Nat.zero_le _)
  | succ n ih =>
    rw [Function.iterate_succ_apply']
    have hlen : ((grow move)^[n] marks).length = m := length_iterate_grow hlength h
    rcases ih with ih | ih
    · rcases merge_eq_or_count_lt (hlen.trans (hlength _ hlen).symm) with heq | hlt
      · exact .inr (congrArg (grow move) heq)
      · exact .inl (Nat.lt_of_le_of_lt ih hlt)
    · exact .inr (congrArg (grow move) ih)

include hlength in
/-- As many rounds of growing as there are places are enough. -/
theorem iterate_grow_eq (h : marks.length = m) (hn : m ≤ n) :
    (grow move)^[n] marks = (grow move)^[m] marks := by
  have hlen : ((grow move)^[m] marks).length = m := length_iterate_grow hlength h
  have hfixed : grow move ((grow move)^[m] marks) = (grow move)^[m] marks := by
    rcases le_count_or_grow_eq hlength h with hcount | hfixed
    · refine (merge_eq_or_count_lt (hlen.trans (hlength _ hlen).symm)).resolve_right fun hlt => ?_
      have hbound := List.count_le_length (a := true) (l := grow move ((grow move)^[m] marks))
      rw [length_grow hlength hlen] at hbound
      exact absurd (Nat.lt_of_le_of_lt hcount hlt) (Nat.not_lt.mpr hbound)
    · exact hfixed
  obtain ⟨k, rfl⟩ := Nat.exists_eq_add_of_le' hn
  rw [Function.iterate_add_apply, Function.iterate_fixed hfixed]

include hlength hmove in
theorem isMarked_iterate_grow_length_iff (h : marks.length = m) :
    IsMarked ((grow move)^[m] marks) j ↔ ∃ k i, IsMarked marks i ∧ Times R k i j := by
  constructor
  · intro hj
    obtain ⟨k, -, i, hi, htimes⟩ := (isMarked_iterate_grow_iff hlength hmove h).mp hj
    exact ⟨k, i, hi, htimes⟩
  · rintro ⟨k, i, hi, htimes⟩
    rw [← iterate_grow_eq hlength h (Nat.le_add_left m k),
      isMarked_iterate_grow_iff hlength hmove h]
    exact ⟨k, by omega, i, hi, htimes⟩

end Moving

/-! ### Moving marks by an expression -/

theorem length_advance (r : Regex) (h : marks.length = text.length + 1) :
    (r.advance text marks).length = text.length + 1 := by
  induction r generalizing marks with
  | empty => exact h
  | chars s => exact length_step s h
  | look l => exact length_keep l h
  | seq r s hr hs => exact hs (hr h)
  | alt r s hr hs => exact (length_merge ((hr h).trans (hs h).symm)).trans (hs h)
  | repetition r min max? ih =>
    have hmove : ∀ marks : Marks, marks.length = text.length + 1 →
        (r.advance text marks).length = text.length + 1 := fun _ => ih
    simp only [advance, moveTimes_eq]
    exact length_iterate (fun _ => length_grow hmove) (length_iterate hmove h)

/-- The pieces of a repetition are the least number of them and some more. -/
theorem describes_repetition_iff {r : Regex} {min : Nat} {max? : Option Nat} :
    (repetition r min max?).Describes text i j ↔
      ∃ k, Times (r.Describes text) min i k ∧
        ∃ n, (∀ most, max? = some most → n ≤ most - min) ∧ Times (r.Describes text) n k j := by
  simp only [Describes]
  constructor
  · rintro ⟨n, hmin, hmax, htimes⟩
    obtain ⟨m, rfl⟩ := Nat.exists_eq_add_of_le hmin
    obtain ⟨k, hleast, hmore⟩ := times_add.mp htimes
    refine ⟨k, hleast, m, fun most h => ?_, hmore⟩
    have := hmax most h
    omega
  · rintro ⟨k, hleast, m, hmax, hmore⟩
    refine ⟨min + m, Nat.le_add_right .., fun most h => ?_, times_add.mpr ⟨k, hleast, hmore⟩⟩
    have := hmax most h
    omega

theorem advance_repetition (r : Regex) (min : Nat) (max? : Option Nat) :
    (repetition r min max?).advance text marks =
      (grow (r.advance text))^[match max? with
        | some most => most - min
        | none => text.length + 1] ((r.advance text)^[min] marks) := by
  simp only [advance, moveTimes_eq]
  rfl

/-- **Moving marks by an expression.** The marks are then on the ends of the pieces that the
expression describes and that start at marks. -/
theorem isMarked_advance_iff (r : Regex) (h : marks.length = text.length + 1) :
    IsMarked (r.advance text marks) j ↔ ∃ i, IsMarked marks i ∧ r.Describes text i j := by
  induction r generalizing marks j with
  | empty => simp [advance, Describes]
  | chars s => exact isMarked_step_iff s
  | look l => exact isMarked_keep_iff l h
  | seq r s hr hs =>
    rw [advance, hs (length_advance r h)]
    simp only [hr h, Describes]
    grind
  | alt r s hr hs =>
    rw [advance, isMarked_merge_iff ((length_advance r h).trans (length_advance s h).symm), hr h,
      hs h]
    simp only [Describes]
    grind
  | repetition r min max? ih =>
    have hlength : ∀ marks : Marks, marks.length = text.length + 1 →
        (r.advance text marks).length = text.length + 1 := fun _ => length_advance r
    have hmove : ∀ marks : Marks, marks.length = text.length + 1 → ∀ j,
        IsMarked (r.advance text marks) j ↔ ∃ i, IsMarked marks i ∧ r.Describes text i j :=
      fun _ h j => ih h
    have hleast : ((r.advance text)^[min] marks).length = text.length + 1 :=
      length_iterate hlength h
    rw [advance_repetition]
    simp only [describes_repetition_iff]
    cases max? with
    | none =>
      simp only [isMarked_iterate_grow_length_iff hlength hmove hleast,
        isMarked_iterate_iff hlength hmove h]
      grind
    | some most =>
      simp only [isMarked_iterate_grow_iff hlength hmove hleast,
        isMarked_iterate_iff hlength hmove h]
      grind

/-- A piece that starts in a text ends in it. -/
theorem Describes.le_length {r : Regex} (h : r.Describes text i j) (hi : i ≤ text.length) :
    j ≤ text.length := by
  have hj : IsMarked (r.advance text (everywhere text)) j :=
    (isMarked_advance_iff r (length_everywhere text)).mpr ⟨i, isMarked_everywhere_iff.mpr hi, h⟩
  have hlt := hj.lt_length
  rw [length_advance r (length_everywhere text)] at hlt
  omega

/-- **Occurring.** An expression occurs in a text exactly if it describes a piece of it. -/
theorem occursIn_iff (r : Regex) (text : String) :
    r.occursIn text = true ↔
      ∃ i j, i ≤ text.length ∧ r.Describes text.toList i j := by
  have hadvance (j : Nat) := isMarked_advance_iff (j := j) r (length_everywhere text.toList)
  rw [occursIn, any_id_iff]
  simp only [hadvance, isMarked_everywhere_iff, String.length_toList]
  grind

/-! ### Whole texts -/

/-- An expression between the ends of a text. -/
def whole (r : Regex) : Regex := seq (seq (look .textStart) r) (look .textEnd)

theorem charBefore_eq_none_iff (h : i ≤ text.length) : charBefore text i = none ↔ i = 0 := by
  cases i with
  | zero => simp [charBefore]
  | succ i => simp [charBefore]; omega

/-- **Whole texts.** An expression that is put between the ends of a text occurs in a text exactly
if it describes all of it. -/
theorem occursIn_whole_iff (r : Regex) (text : String) :
    r.whole.occursIn text = true ↔ r.DescribesAll text := by
  have hlength : text.toList.length = text.length := String.length_toList
  rw [occursIn_iff]
  simp only [whole, Describes, Look.holds, Option.isNone_iff_eq_none, DescribesAll]
  constructor
  · rintro ⟨i, -, hi, k, ⟨i', ⟨hstart, rfl⟩, hr⟩, hend, rfl⟩
    obtain rfl := (charBefore_eq_none_iff (hlength ▸ hi)).mp hstart
    have hk := hr.le_length (Nat.zero_le _)
    have hk' := List.getElem?_eq_none_iff.mp hend
    obtain rfl : k = text.length := by omega
    exact hr
  · intro hr
    have hend : text.toList[text.length]? = none := List.getElem?_eq_none (Nat.le_of_eq hlength)
    exact ⟨0, text.length, Nat.zero_le _, text.length, ⟨0, ⟨rfl, rfl⟩, hr⟩, hend, rfl⟩

/-- Whether an expression describes a whole text is found by moving marks. -/
instance (r : Regex) (text : String) : Decidable (r.DescribesAll text) :=
  decidable_of_iff _ (occursIn_whole_iff r text)

end MessageKeys.Regex
