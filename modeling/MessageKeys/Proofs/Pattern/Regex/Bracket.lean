import MessageKeys.Pattern.Regex.Bracket
import MessageKeys.Proofs.Pattern.Regex.Escape

/-!
# Sets in brackets do not look ahead

The reader of sets in brackets is local: a set that ends before the closing is the same without it.
Items and nested sets are read by turns, so one item is looked at with the readers of the rest as
parameters (`itemsStep`), and the steps that may be taken are counted once for both. There is one
exception: an item may be taken alone before the closing and not at the end of a text, but then the
set does not end before the closing.

## Main definitions

* `MessageKeys.Regex.itemsStep` — one item of a set.

## Main results

* `MessageKeys.Regex.isLocal_itemsStep_cons` — items and sets behind one item.
* `MessageKeys.Regex.isLocal_sets` — items and sets, by induction on the steps.
* `MessageKeys.Regex.isLocal_readBracket` — sets in brackets.
-/

namespace MessageKeys.Regex

variable {f : Flags} {cs rest : List Char}

/-! ### Named sets -/

/-- Reads the name of a set of ASCII characters behind the signs in front of it. -/
def readAsciiName (f : Flags) (negated : Bool) (cs : List Char) : Option (CharSet × List Char) :=
  match cs.dropWhile (· != ':') with
  | ':' :: ']' :: rest =>
    (asciiSet? (String.ofList (cs.takeWhile (· != ':')))).map fun s =>
      (if negated then .complement (f.fold s) else f.fold s, rest)
  | _ => none

theorem readAsciiName_append (f : Flags) (negated : Bool) (cs : List Char) :
    readAsciiName f negated (cs ++ closing) =
      (readAsciiName f negated cs).map fun p => (p.1, p.2 ++ closing) := by
  have hclosing : closing.dropWhile (· != ':') = [] := by decide
  rcases dropWhile_append_closing cs hclosing with ⟨hnil, hdrop⟩ | ⟨hne, hdrop, htake⟩
  · simp [readAsciiName, hnil, hdrop]
  · simp only [readAsciiName, hdrop, htake]
    rcases hrest : cs.dropWhile (· != ':') with _ | ⟨c, _ | ⟨d, t⟩⟩
    · exact absurd hrest hne
    · simp [closing]
    · simp only [List.cons_append]
      split <;> simp_all [Function.comp_def]

theorem readAsciiName_suffix {negated : Bool} {s : CharSet}
    (h : readAsciiName f negated cs = some (s, rest)) : rest <:+ cs := by
  have hsuffix := List.dropWhile_suffix (l := cs) (· != ':')
  rw [readAsciiName] at h
  split at h
  next t ht =>
    obtain ⟨_, _, hrest⟩ := Option.map_eq_some_iff.mp h
    simp only [Prod.mk.injEq] at hrest
    rw [ht, hrest.2] at hsuffix
    exact ((List.suffix_cons _ rest).trans (List.suffix_cons ..)).trans hsuffix
  next => cases h

theorem readAsciiSet_colon (f : Flags) (cs : List Char) :
    readAsciiSet f (':' :: cs) =
      let p := match cs with | '^' :: cs => (true, cs) | cs => (false, cs)
      readAsciiName f p.1 p.2 := rfl

theorem readAsciiSet_append (f : Flags) (cs : List Char) :
    readAsciiSet f (cs ++ closing) = (readAsciiSet f cs).map fun p => (p.1, p.2 ++ closing) := by
  cases cs with
  | nil => rfl
  | cons c cs =>
    by_cases hc : c = ':'
    · subst hc
      rw [List.cons_append, readAsciiSet_colon, readAsciiSet_colon]
      cases cs with
      | nil => rfl
      | cons d cs =>
        by_cases hd : d = '^'
        · subst hd
          exact readAsciiName_append f true cs
        · simpa [hd] using readAsciiName_append f false (d :: cs)
    · simp [readAsciiSet, hc]

theorem readAsciiSet_suffix {s : CharSet} (h : readAsciiSet f cs = some (s, rest)) :
    rest <:+ cs := by
  cases cs with
  | nil => simp [readAsciiSet] at h
  | cons c cs =>
    by_cases hc : c = ':'
    · subst hc
      rw [readAsciiSet_colon] at h
      refine (readAsciiName_suffix h).trans (List.IsSuffix.trans ?_ (List.suffix_cons _ cs))
      split
      next t => exact List.suffix_cons _ t
      next => exact List.suffix_rfl
    · simp [readAsciiSet, hc] at h

/-! ### Items -/

theorem isLocal_readSetAtom_cons [Dialect] (f : Flags) (c : Char) :
    IsLocalUnless (IsDangling f) fun cs => readSetAtom f (c :: cs) := by
  by_cases hc : c = '\\'
  · subst hc
    exact isLocal_readEscape f
  · exact ((IsLocal.pure (Atom.char c false)).of_eq fun cs => by simp [readSetAtom]).unless _

theorem isLocal_readSetAtom [Dialect] (f : Flags) :
    IsLocalUnless (IsDangling f) (readSetAtom f) :=
  .uncons (isLocal_readSetAtom_cons f) rfl

/-! ### Ranges -/

/-- Reads what stands behind the first item of a range, if there is a range. -/
def readRangeEnd [Dialect] (f : Flags) (first : Atom) (cs : List Char) :
    Option (CharSet × List Char) :=
  let alone : Option (CharSet × List Char) := (first.set? f).map fun s => (s, cs)
  match cs with
  | '-' :: rest =>
    match f.skip rest with
    | [] => none
    | c :: rest =>
      if c = ']' || c = '-' then alone
      else do
        let (last, rest) ← readSetAtom f (c :: rest)
        return (← rangeSet? f first last, rest)
  | [] => none
  | _ => alone

theorem readSetRange_eq [Dialect] (f : Flags) (cs : List Char) :
    readSetRange f cs = (readSetAtom f cs).bind fun p => readRangeEnd f p.1 (f.skip p.2) := rfl

/-- Reads the second item of a range. -/
def readRangeLast [Dialect] (f : Flags) (first : Atom) (cs : List Char) :
    Option (CharSet × List Char) :=
  (readSetAtom f cs).bind fun p => (rangeSet? f first p.1).bind fun s => some (s, p.2)

theorem isLocal_readRangeLast [Dialect] (f : Flags) (first : Atom) :
    IsLocal (readRangeLast f first) := by
  have hset (last : Atom) : IsLocal fun cs => (rangeSet? f first last).bind fun s => some (s, cs) :=
    .given _ fun s => .pure s
  refine isLocal_iff.mpr ((isLocal_readSetAtom f).bind (fun last => isLocal_iff.mp (hset last)) ?_)
  rintro _ rest s t ⟨⟨l, rfl⟩, -⟩
  cases first <;> simp [rangeSet?]

/-- Takes the first item alone. -/
def readAlone (f : Flags) (first : Atom) (cs : List Char) : Option (CharSet × List Char) :=
  (first.set? f).bind fun s => some (s, cs)

theorem isLocal_readAlone (f : Flags) (first : Atom) : IsLocal (readAlone f first) :=
  .given _ fun s => .pure s

theorem readRangeEnd_of_ne [Dialect] {first : Atom} {c : Char} (hc : c ≠ '-') :
    readRangeEnd f first (c :: cs) = readAlone f first (c :: cs) := by
  cases hset : first.set? f <;> simp [readRangeEnd, readAlone, hc, hset]

theorem readRangeEnd_hyphen [Dialect] {first : Atom} {c : Char} {t : List Char}
    (h : f.skip cs = c :: t) :
    readRangeEnd f first ('-' :: cs) = if c = ']' || c = '-'
      then readAlone f first ('-' :: cs) else readRangeLast f first (c :: t) := by
  simp only [readRangeEnd, readAlone, h, Option.map_eq_bind, Function.comp_def]
  rfl

/-- At the end of a text there is no item, but one may be taken alone before the closing. -/
theorem isLocal_readRangeEnd [Dialect] (f : Flags) (first : Atom) :
    IsLocalUnless (fun _ rest => rest = []) (readRangeEnd f first) where
  suffix {cs _ _} h := by
    rcases cs with _ | ⟨c, cs⟩
    · simp [readRangeEnd] at h
    · by_cases hc : c = '-'
      · subst hc
        cases hskip : f.skip cs with
        | nil => simp [readRangeEnd, hskip] at h
        | cons c t =>
          rw [readRangeEnd_hyphen hskip] at h
          split at h
          · exact (isLocal_readAlone f first).suffix h
          · have hsuffix := (isLocal_readRangeLast f first).suffix h
            exact (hsuffix.trans (hskip ▸ skip_suffix f cs)).trans (List.suffix_cons ..)
      · rw [readRangeEnd_of_ne hc] at h
        exact (isLocal_readAlone f first).suffix h
  without {cs s rest} h := by
    rcases cs with _ | ⟨c, cs⟩
    · have hparen : (')' : Char) ≠ '-' := by decide
      have hclosing : readAlone f first ([] ++ closing) = some (s, rest ++ closing) :=
        (readRangeEnd_of_ne hparen).symm.trans h
      have halone := (isLocal_readAlone f first).without hclosing
      exact .inr (List.suffix_nil.mp ((isLocal_readAlone f first).suffix halone))
    · by_cases hc : c = '-'
      · subst hc
        rw [List.cons_append] at h
        rcases skip_append_closing f cs with hskip | hskip
        · cases hrest : f.skip cs with
          | nil =>
            rw [hrest] at hskip
            rw [readRangeEnd_hyphen hskip, if_neg (by decide)] at h
            have hempty : readRangeLast f first [] = some (s, rest) :=
              (isLocal_readRangeLast f first).without h
            simp [readRangeLast, readSetAtom] at hempty
          | cons c t =>
            rw [hrest] at hskip
            rw [readRangeEnd_hyphen hskip] at h
            rw [readRangeEnd_hyphen hrest]
            split
            next hc =>
              rw [if_pos hc] at h
              exact .inl ((isLocal_readAlone f first).without h)
            next hc =>
              rw [if_neg hc] at h
              exact .inl ((isLocal_readRangeLast f first).without h)
        · simp [readRangeEnd, hskip] at h
      · rw [List.cons_append, readRangeEnd_of_ne hc] at h
        rw [readRangeEnd_of_ne hc]
        exact .inl ((isLocal_readAlone f first).without h)

theorem isLocal_readSetRange_cons [Dialect] (f : Flags) (c : Char) :
    IsLocalUnless (fun _ rest => rest = []) fun cs => readSetRange f (c :: cs) := by
  refine ((isLocal_readSetAtom_cons f c).bind
    (fun first => (isLocal_readRangeEnd f first).skip f) ?_).of_eq fun cs =>
      readSetRange_eq f (c :: cs)
  rintro _ _ s t ⟨⟨l, rfl⟩, rest, rfl, -⟩
  rw [List.cons_append, skip_brace, readRangeEnd_of_ne (by decide)]
  simp [readAlone, Atom.set?]

/-! ### The start of a set -/

theorem isLocal_readHyphens (f : Flags) (fuel : Nat) (o : OpenSet) :
    IsLocal fun cs => some (readHyphens f fuel o cs) := by
  induction fuel generalizing o with
  | zero => exact .pure o
  | succ fuel ih =>
    refine .head '-' ((ih _).skip f) (.pure o) fun cs h => ?_
    cases cs with
    | nil => rfl
    | cons c cs =>
      have hc : c ≠ '-' := by simpa using h
      simp [readHyphens, hc]

theorem readHyphens_fuel {n m : Nat} {o : OpenSet} (hn : cs.length ≤ n) (hm : cs.length ≤ m) :
    readHyphens f n o cs = readHyphens f m o cs := by
  refine fuel_eq (readHyphens f) (fun n m _ => ?_) (fun n m o c cs ih => ?_) hn hm
  · cases n <;> cases m <;> rfl
  · by_cases hc : c = '-'
    · subst hc
      exact ih _ _ (length_skip_le f cs)
    · simp [readHyphens, hc]

/-- Reads the sign in front of a negated set. -/
def readSign (f : Flags) (cs : List Char) : Bool × List Char :=
  match f.skip cs with
  | '^' :: cs => (true, f.skip cs)
  | cs => (false, cs)

/-- Reads a closing bracket that stands for itself, which it does if nothing stands before it. -/
def readFirstBracket (f : Flags) (negated : Bool) (read : OpenSet × List Char) :
    Bool × OpenSet × List Char :=
  match read with
  | (o, ']' :: rest) =>
    if o.items.isEmpty then (negated, o.add ⟨.single ']', 0⟩, f.skip rest)
    else (negated, o, ']' :: rest)
  | (o, cs) => (negated, o, cs)

theorem readSetStart_eq (f : Flags) (cs : List Char) :
    readSetStart f cs =
      let sign := readSign f cs
      readFirstBracket f sign.1 (readHyphens f sign.2.length {} sign.2) := rfl

/-- The sign and the items at the start of a set, as the result of a reader. -/
def ofStart (start : Bool × OpenSet × List Char) : Option ((Bool × OpenSet) × List Char) :=
  some ((start.1, start.2.1), start.2.2)

theorem isLocal_readSign (f : Flags) : IsLocal fun cs => some (readSign f cs) := by
  refine .skipHead f '^' ((IsLocal.pure true).skip f) (.pure false) (fun cs t h => ?_)
    fun cs h => ?_
  · simp only [readSign, h]
  · unfold readSign
    split
    · simp_all
    · rfl

theorem isLocal_readFirstBracket (f : Flags) (negated : Bool) (o : OpenSet) :
    IsLocal fun cs => ofStart (readFirstBracket f negated (o, cs)) := by
  cases ho : o.items.isEmpty with
  | true =>
    have hbracket : IsLocal fun cs => ofStart (readFirstBracket f negated (o, ']' :: cs)) :=
      ((IsLocal.pure (negated, o.add ⟨.single ']', 0⟩)).skip f).of_eq fun cs => by
        simp [readFirstBracket, ho, ofStart]
    refine .head ']' hbracket (.pure (negated, o)) fun cs h => ?_
    unfold readFirstBracket
    split <;> simp_all [ofStart]
  | false =>
    refine (IsLocal.pure (negated, o)).of_eq fun cs => ?_
    unfold readFirstBracket
    split <;> simp_all [ofStart]

theorem isLocal_readSetStart (f : Flags) : IsLocal fun cs => ofStart (readSetStart f cs) := by
  have hhyphens : IsLocal fun cs => some (readHyphens f cs.length {} cs) :=
    .perChar (isLocal_readHyphens f · {}) fun hn hm => by rw [readHyphens_fuel hn hm]
  have hstart := (isLocal_readSign f).bind fun negated =>
    hhyphens.bind fun o => isLocal_readFirstBracket f negated o
  exact hstart.of_eq fun cs => congrArg ofStart (readSetStart_eq f cs)

/-! ### Sets -/

variable [Dialect]

/-- Reads an item of a set, and the rest of the set by other readers. -/
def itemsStep (f : Flags) (items : OpenSet → Reader DeepSet) (bracket : Reader DeepSet)
    (negated : Bool) (o : OpenSet) : List Char → Option (DeepSet × List Char)
  | [] => none
  | '[' :: cs =>
    match readAsciiSet f cs with
    | some (s, cs) => if isUsable f s then items (o.add ⟨s, 0⟩) cs else none
    | none => do
      let (nested, cs) ← bracket cs
      items (o.add nested) cs
  | ']' :: cs => (closeBracket? f negated o).map fun s => (s, cs)
  | '&' :: '&' :: cs => items (o.operate f .inter) cs
  | '-' :: '-' :: cs => items (o.operate f .diff) cs
  | '~' :: '~' :: cs => items (o.operate f .symmDiff) cs
  | cs => do
    let (s, cs) ← readSetRange f cs
    items (o.add ⟨s, 0⟩) cs

section Step

variable {items items' : OpenSet → Reader DeepSet} {bracket bracket' : Reader DeepSet}
  {negated : Bool} {o : OpenSet} {c : Char}

theorem itemsStep_range (hbracket : c ≠ '[') (hclose : c ≠ ']')
    (hop : ∀ d, cs.head? = some d → d = c → c ≠ '&' ∧ c ≠ '-' ∧ c ≠ '~') :
    itemsStep f items bracket negated o (c :: cs) =
      (readSetRange f (c :: cs)).bind fun p => items (o.add ⟨p.1, 0⟩) p.2 := by
  unfold itemsStep
  split <;> simp_all

/-- Behind an opening bracket stands the name of a set or a nested set. A name that is incomplete
with the closing behind it is incomplete without it, so that both are told apart in the same way. -/
theorem isLocal_itemsStep_named (hitems : ∀ o, IsLocal (items o)) (hbracket : IsLocal bracket) :
    IsLocal fun cs => itemsStep f items bracket negated o ('[' :: cs) := by
  have hnested : IsLocal fun cs => (bracket cs).bind fun p => items (o.add p.1) p.2 :=
    hbracket.bind fun nested => hitems (o.add nested)
  constructor
  · intro cs s rest h
    simp only [itemsStep] at h
    split at h
    next t hname =>
      split at h
      · exact ((hitems _).suffix h).trans (readAsciiSet_suffix hname)
      · cases h
    next => exact hnested.suffix h
  · intro cs s rest h
    simp only [itemsStep, readAsciiSet_append] at h ⊢
    cases hname : readAsciiSet f cs with
    | some p =>
      simp only [hname, Option.map_some] at h ⊢
      split at h
      next husable =>
        rw [if_pos husable]
        exact (hitems _).without h
      next => cases h
    | none =>
      simp only [hname, Option.map_none] at h
      exact hnested.without h

/-- A set is read without looking ahead if its items are, and if they do not end in the closing. -/
theorem isLocal_itemsStep_cons (hitems : ∀ o, IsLocal (items o)) (hbracket : IsLocal bracket)
    (hdead : ∀ o s t, items o closing ≠ some (s, t ++ closing)) (c : Char) :
    IsLocal fun cs => itemsStep f items bracket negated o (c :: cs) := by
  have hrange (c : Char) : IsLocal fun cs =>
      (readSetRange f (c :: cs)).bind fun p => items (o.add ⟨p.1, 0⟩) p.2 := by
    have hnext (s : CharSet) := isLocal_iff.mp (hitems (o.add ⟨s, 0⟩))
    refine isLocal_iff.mpr ((isLocal_readSetRange_cons f c).bind hnext ?_)
    rintro s _ x t rfl
    exact hdead _ _ _
  by_cases hc : c ∈ ['[', ']', '&', '-', '~']
  · simp only [List.mem_cons, List.not_mem_nil, or_false] at hc
    rcases hc with rfl | rfl | rfl | rfl | rfl
    · exact isLocal_itemsStep_named hitems hbracket
    · exact (IsLocal.given (closeBracket? f negated o) fun s => .pure s).of_eq fun cs => by
        cases hclose : closeBracket? f negated o <;> simp [itemsStep, hclose]
    · refine .head '&' (hitems (o.operate f .inter)) (hrange '&') fun cs h => ?_
      exact itemsStep_range (by decide) (by decide) fun d hd heq => absurd (heq ▸ hd) h
    · refine .head '-' (hitems (o.operate f .diff)) (hrange '-') fun cs h => ?_
      exact itemsStep_range (by decide) (by decide) fun d hd heq => absurd (heq ▸ hd) h
    · refine .head '~' (hitems (o.operate f .symmDiff)) (hrange '~') fun cs h => ?_
      exact itemsStep_range (by decide) (by decide) fun d hd heq => absurd (heq ▸ hd) h
  · simp only [List.mem_cons, List.not_mem_nil, or_false, not_or] at hc
    exact (hrange c).of_eq fun cs => itemsStep_range hc.1 hc.2.1 fun _ _ _ => hc.2.2

/-- What is read behind an item depends on the other readers at shorter texts only. -/
theorem itemsStep_congr (hitems : ∀ o t, t.length ≤ cs.length → items o t = items' o t)
    (hbracket : bracket cs = bracket' cs) (hlocal : IsLocal bracket) :
    itemsStep f items bracket negated o (c :: cs) =
      itemsStep f items' bracket' negated o (c :: cs) := by
  have hrange : ((readSetRange f (c :: cs)).bind fun p => items (o.add ⟨p.1, 0⟩) p.2) =
      (readSetRange f (c :: cs)).bind fun p => items' (o.add ⟨p.1, 0⟩) p.2 := by
    cases hread : readSetRange f (c :: cs) with
    | none => rfl
    | some p => exact hitems _ _ ((isLocal_readSetRange_cons f c).suffix hread).length_le
  have hother (hopen : c ≠ '[') (hclose : c ≠ ']')
      (hop : ∀ d, cs.head? = some d → d = c → c ≠ '&' ∧ c ≠ '-' ∧ c ≠ '~') :
      itemsStep f items bracket negated o (c :: cs) =
        itemsStep f items' bracket' negated o (c :: cs) := by
    rw [itemsStep_range hopen hclose hop, hrange, itemsStep_range hopen hclose hop]
  by_cases hc : c ∈ ['[', ']', '&', '-', '~']
  · simp only [List.mem_cons, List.not_mem_nil, or_false] at hc
    rcases hc with rfl | rfl | hc
    · simp only [itemsStep]
      cases hname : readAsciiSet f cs with
      | some p => simp only [hitems _ _ (readAsciiSet_suffix hname).length_le]
      | none =>
        cases hread : bracket cs with
        | none => simp [← hbracket, hread]
        | some p => simp [← hbracket, hread, hitems _ _ (hlocal.suffix hread).length_le]
    · rfl
    · by_cases hhead : cs.head? = some c
      · obtain ⟨t, rfl⟩ := List.head?_eq_some_iff.mp hhead
        rcases hc with rfl | rfl | rfl
        all_goals exact hitems _ t (Nat.le_succ _)
      · refine hother ?_ ?_ fun d hd heq => absurd (heq ▸ hd) hhead
        all_goals rcases hc with rfl | rfl | rfl <;> decide
  · simp only [List.mem_cons, List.not_mem_nil, or_false, not_or] at hc
    exact hother hc.1 hc.2.1 fun _ _ _ => hc.2.2

end Step

theorem readSetItems_succ (f : Flags) (fuel : Nat) (negated : Bool) (o : OpenSet) (cs : List Char) :
    readSetItems f (fuel + 1) negated o cs =
      itemsStep f (readSetItems f fuel negated) (readBracket f fuel) negated o (f.skip cs) := rfl

theorem readBracket_succ (f : Flags) (fuel : Nat) (cs : List Char) :
    readBracket f (fuel + 1) cs =
      (ofStart (readSetStart f cs)).bind fun p => readSetItems f fuel p.1.1 p.1.2 p.2 := rfl

/-- Sets are read without looking ahead, and their items are not empty. -/
theorem isLocal_sets (f : Flags) (fuel : Nat) :
    (∀ negated o, IsLocal (readSetItems f fuel negated o) ∧ ∀ cs s rest,
      readSetItems f fuel negated o cs = some (s, rest) → rest.length < cs.length) ∧
      IsLocal (readBracket f fuel) := by
  induction fuel with
  | zero => exact ⟨fun negated o => ⟨.fail, fun cs s rest h => by cases h⟩, .fail⟩
  | succ fuel ih =>
    obtain ⟨hitems, hbracket⟩ := ih
    have hcons (negated : Bool) (o : OpenSet) (c : Char) : IsLocal fun cs =>
        itemsStep f (readSetItems f fuel negated) (readBracket f fuel) negated o (c :: cs) := by
      refine isLocal_itemsStep_cons (fun o => (hitems negated o).1) hbracket (fun o s t h => ?_) c
      have hlength := (hitems negated o).2 _ _ _ h
      simp only [List.length_append] at hlength
      omega
    refine ⟨fun negated o => ⟨(IsLocal.uncons (hcons negated o) rfl).skip f, fun cs s rest h => ?_⟩,
      (isLocal_readSetStart f).bind fun start => (hitems start.1 start.2).1⟩
    have hlt := IsLocalUnless.length_lt (fun c => isLocal_iff.mp (hcons negated o c)) rfl h
    exact Nat.lt_of_lt_of_le hlt (length_skip_le f cs)

/-- What is read of a set does not depend on the number of steps that may be taken, if there are
enough: two for each character. -/
theorem sets_fuel (f : Flags) {n m : Nat} :
    (∀ negated o cs, 2 * cs.length + 1 ≤ n → 2 * cs.length + 1 ≤ m →
      readSetItems f n negated o cs = readSetItems f m negated o cs) ∧
    ∀ cs, 2 * cs.length + 2 ≤ n → 2 * cs.length + 2 ≤ m →
      readBracket f n cs = readBracket f m cs := by
  induction n generalizing m with
  | zero => exact ⟨fun _ _ cs h => by omega, fun cs h => by omega⟩
  | succ n ih =>
    cases m with
    | zero => exact ⟨fun _ _ cs _ h => by omega, fun cs _ h => by omega⟩
    | succ m =>
      obtain ⟨hitems, hbracket⟩ := ih (m := m)
      constructor
      · intro negated o cs hn hm
        have hlength := length_skip_le f cs
        rw [readSetItems_succ, readSetItems_succ]
        cases hskip : f.skip cs with
        | nil => rfl
        | cons c t =>
          rw [hskip, List.length_cons] at hlength
          exact itemsStep_congr (fun o u hu => hitems negated o u (by omega) (by omega))
            (hbracket t (by omega) (by omega)) (isLocal_sets f n).2
      · intro cs hn hm
        rw [readBracket_succ, readBracket_succ]
        cases hstart : ofStart (readSetStart f cs) with
        | none => rfl
        | some p =>
          have hlength := ((isLocal_readSetStart f).suffix hstart).length_le
          exact hitems _ _ _ (by omega) (by omega)

/-- **Sets in brackets** are read without looking ahead. -/
theorem isLocal_readBracket (f : Flags) :
    IsLocal fun cs => readBracket f (2 * cs.length + 2) cs :=
  .fuelled (fun n => 2 * n + 2) (fun n => (isLocal_sets f n).2) (fun h => by omega)
    fun h => (sets_fuel f).2 _ h (Nat.le_refl _)

end MessageKeys.Regex
