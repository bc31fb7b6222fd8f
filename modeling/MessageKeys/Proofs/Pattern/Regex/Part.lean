import MessageKeys.Pattern.Regex.Reader
import MessageKeys.Proofs.Pattern.Regex.Bracket

/-!
# Parts of expressions do not look ahead

The readers of the parts of an expression are local: of what stands for characters, of repetitions
and of the openings of groups. What an escape leaves may be an open brace with nothing behind it;
this is no repetition before the closing either.

## Main results

* `MessageKeys.Regex.isLocal_readAtom_cons` — characters, classes and conditions.
* `MessageKeys.Regex.isLocal_readCount` — repetitions in braces.
* `MessageKeys.Regex.isLocal_readOpening` — openings of groups.
* `MessageKeys.Regex.readCount_append_closing` — open braces.
-/

namespace MessageKeys.Regex

variable {f : Flags} {cs rest : List Char}

/-! ### Characters, classes and conditions -/

theorem isLocal_readAtom_cons [Dialect] (f : Flags) (c : Char) :
    IsLocalUnless (fun _ => IsOpenBrace f) fun cs => readAtom f (c :: cs) := by
  by_cases hc : c ∈ ['\\', '.', '^', '$']
  · simp only [List.mem_cons, List.not_mem_nil, or_false] at hc
    rcases hc with rfl | rfl | rfl | rfl
    · refine ((isLocal_readEscape f).convert (Atom.regex? f) fun _ h => h.2).of_eq fun cs => ?_
      cases hread : readEscape f cs with
      | none => simp [readAtom, hread]
      | some p => cases hr : p.1.regex? f <;> simp [readAtom, hread, hr]
    · refine ((IsLocal.given (if f.unicode then some (dotSet f) else none) fun s =>
        .pure (.chars s)).of_eq fun cs => ?_).unless _
      cases hu : f.unicode <;> simp [readAtom, hu]
    · exact IsLocal.unless (.pure _) _
    · exact IsLocal.unless (.pure _) _
  · simp only [List.mem_cons, List.not_mem_nil, or_false, not_or] at hc
    refine ((IsLocal.pure (.chars (f.fold (.single c)))).of_eq fun cs => ?_).unless _
    simp [readAtom, hc]

/-! ### Repetitions -/

theorem isLocal_readDigits (f : Flags) (fuel : Nat) (value? : Option Nat) :
    IsLocal fun cs => some (readDigits f fuel value? cs) := by
  induction fuel generalizing value? with
  | zero => exact (IsLocal.pure value?).of_eq fun cs => by cases cs <;> rfl
  | succ fuel ih =>
    refine .peek Char.isDigit (fun c hc => ?_) (.pure value?) rfl fun c cs hc => by
      simp [readDigits, hc]
    exact ((ih (some (value?.getD 0 * 10 + (c.toNat - 48)))).skip f).of_eq fun cs => by
      simp [readDigits, hc]

theorem readDigits_fuel {n m : Nat} {value? : Option Nat} (hn : cs.length ≤ n)
    (hm : cs.length ≤ m) : readDigits f n value? cs = readDigits f m value? cs := by
  refine fuel_eq (readDigits f) (fun n m _ => ?_) (fun n m value? c cs ih => ?_) hn hm
  · cases n <;> cases m <;> rfl
  · simp only [readDigits, ih _ _ (length_skip_le f cs)]

theorem isLocal_readCountNumber (f : Flags) : IsLocal (readCountNumber f) := by
  have hdigits : IsLocal fun cs => some (readDigits f cs.length none cs) :=
    .perChar (isLocal_readDigits f · none) fun hn hm => by rw [readDigits_fuel hn hm]
  have hnumber (value? : Option Nat) : IsLocal fun cs =>
      (value?.bind fun n => if n < Nat.pow 2 32 then some n else none).bind fun n =>
        some (n, f.skip (cs.dropWhile isBlankChar)) :=
    .given _ fun n => ((IsLocal.pure n).skip f).dropWhile isBlankChar (by decide)
  refine ((hdigits.dropWhile isBlankChar (by decide)).bind hnumber).of_eq fun cs => ?_
  have hfuel : readDigits f cs.length none (cs.dropWhile isBlankChar) =
      readDigits f (cs.dropWhile isBlankChar).length none (cs.dropWhile isBlankChar) :=
    readDigits_fuel (List.dropWhile_suffix _).length_le (Nat.le_refl _)
  rw [readCountNumber, hfuel]
  rcases readDigits f (cs.dropWhile isBlankChar).length none (cs.dropWhile isBlankChar) with
    ⟨_ | n, t⟩
  · rfl
  · by_cases h : n < Nat.pow 2 32 <;> simp [h]

theorem isLocal_skipLazy {α : Type} (x : α) : IsLocal fun cs => some (x, skipLazy cs) := by
  refine .head '?' (.pure x) (.pure x) fun cs h => ?_
  unfold skipLazy
  split
  · simp at h
  · rfl

/-- Reads how often a part may be repeated at most, behind the least number. -/
def readMost (f : Flags) (min : Nat) (cs : List Char) : Option (Count × List Char) :=
  match cs with
  | ',' :: cs =>
    match f.skip cs with
    | '}' :: cs => some (Count.mk min none, '}' :: cs)
    | cs => do
      let (max, cs) ← readCountNumber f cs
      if max < min then none else some (Count.mk min (some max), cs)
  | cs => some (Count.mk min (some min), cs)

/-- Reads the brace behind the numbers. -/
def readCountEnd (f : Flags) (count : Count) (cs : List Char) : Option (Count × List Char) :=
  match cs with
  | '}' :: cs => some (count, skipLazy (f.skip cs))
  | _ => none

theorem readCount_eq (f : Flags) (cs : List Char) :
    readCount f cs = (readCountNumber f (f.skip cs)).bind fun p =>
      (readMost f p.1 p.2).bind fun q => readCountEnd f q.1 q.2 := by
  rw [readCount]
  cases readCountNumber f (f.skip cs) with
  | none => rfl
  | some p =>
    rcases p with ⟨min, _ | ⟨c, t⟩⟩
    · rfl
    · by_cases hc : c = ','
      · subst hc
        simp only [Option.bind_eq_bind, Option.bind_some, readMost]
        rcases f.skip t with _ | ⟨d, u⟩
        · rfl
        · by_cases hd : d = '}'
          · subst hd
            rfl
          · cases hread : readCountNumber f (d :: u) with
            | none => simp [hd, hread]
            | some q =>
              obtain ⟨max, rest⟩ := q
              by_cases hlt : max < min
              · simp [hd, hread, hlt]
              · rcases rest with _ | ⟨e, v⟩
                · simp [hd, hread, hlt, readCountEnd]
                · by_cases he : e = '}' <;> simp [hd, hread, hlt, he, readCountEnd]
      · by_cases hd : c = '}'
        · subst hd
          rfl
        · simp [readMost, hc, hd, readCountEnd]

theorem isLocal_readMost (f : Flags) (min : Nat) : IsLocal (readMost f min) := by
  have hnumber := (isLocal_readCountNumber f).convert fun max =>
    if max < min then none else some (Count.mk min (some max))
  have hmost : IsLocal fun cs => readMost f min (',' :: cs) := by
    have hbrace : ('}' : Char) ≠ ')' := by decide
    have hbraced := IsLocal.ifHead '}' hbrace (.pure (Count.mk min none)) hnumber
    refine (hbraced.skip f).of_eq fun cs => ?_
    simp only [readMost]
    rcases f.skip cs with _ | ⟨c, t⟩
    · rfl
    · by_cases hc : c = '}'
      · subst hc
        rfl
      · cases hread : readCountNumber f (c :: t) with
        | none => simp [hc, hread]
        | some p => by_cases hlt : p.1 < min <;> simp [hc, hread, hlt]
  refine .head ',' hmost (.pure (Count.mk min (some min))) fun cs h => ?_
  unfold readMost
  split
  · simp at h
  · rfl

theorem isLocal_readCountEnd (f : Flags) (count : Count) : IsLocal (readCountEnd f count) := by
  refine .head '}' ((isLocal_skipLazy count).skip f) .fail fun cs h => ?_
  unfold readCountEnd
  split
  · simp at h
  · rfl

theorem isLocal_readCount (f : Flags) : IsLocal (readCount f) :=
  (((isLocal_readCountNumber f).skip f).bind fun min =>
    (isLocal_readMost f min).bind (isLocal_readCountEnd f)).of_eq (readCount_eq f)

/-- A brace is not left open before the closing. -/
theorem readCount_append_closing {t : List Char} (h : f.skip t = []) :
    readCount f (t ++ closing) = none := by
  have hnumber : readCountNumber f (f.skip (t ++ closing)) = none := by
    rcases skip_append_closing f t with hskip | hskip
    · rw [hskip, h]
      rfl
    · rw [hskip]
      rfl
  rw [readCount_eq, hnumber, Option.bind_none]

/-! ### Groups -/

/-- The letters of flags are read up to the closing too, if nothing stands behind them. -/
theorem isLocal_readFlags (letters : List Char) :
    IsLocalUnless (fun _ rest => rest = []) (readFlags letters) where
  suffix {cs _ _} h := by
    fun_induction readFlags letters cs with
    | case1 => cases h
    | case2 => cases h
    | case3 =>
      cases h
      exact List.suffix_refl _
    | case4 _ c cs _ _ ih => exact (ih h).trans (List.suffix_cons c cs)
    | case5 => cases h
  without {cs x rest} h := by
    induction cs generalizing letters with
    | nil =>
      have hstop : readFlags letters ([] ++ closing) =
          if letters.head? = some '-' then none else some (letters.reverse, [] ++ closing) := rfl
      rw [hstop] at h
      split at h
      · cases h
      · have hrest := (IsLocal.pure letters.reverse).without h
        cases hrest
        exact .inr rfl
    | cons c cs ih =>
      rw [List.cons_append, readFlags] at h
      rw [readFlags]
      split
      next hstop =>
        rw [if_pos hstop] at h
        split
        next hhyphen =>
          rw [if_pos hhyphen] at h
          cases h
        next hhyphen =>
          rw [if_neg hhyphen] at h
          exact .inl ((IsLocal.pure letters.reverse).without h)
      next hstop =>
        rw [if_neg hstop] at h
        split
        next hletter =>
          rw [if_pos hletter] at h
          exact ih _ h
        next hletter =>
          rw [if_neg hletter] at h
          cases h

/-- Goes on behind the letters of flags. -/
def openBehind (letters : List Char) : List Char → Option (Opening × List Char)
  | [] => none
  | c :: cs =>
    if c = ')' then (if letters = [] then none else some (.flags letters)).map fun o => (o, cs)
    else some (.group letters, cs)

theorem readFlagOpening_eq (cs : List Char) :
    readFlagOpening cs = (readFlags [] cs).bind fun p => openBehind p.1 p.2 := by
  rw [readFlagOpening]
  rcases readFlags [] cs with _ | ⟨letters, _ | ⟨c, t⟩⟩
  · rfl
  · cases letters <;> rfl
  · by_cases hc : c = ')'
    · subst hc
      cases letters <;> rfl
    · cases letters <;> simp [openBehind, hc]

theorem isLocal_openBehind_cons (letters : List Char) (c : Char) :
    IsLocal fun cs => openBehind letters (c :: cs) := by
  by_cases hc : c = ')'
  · refine (IsLocal.given (if letters = [] then none else some (.flags letters)) fun o =>
      .pure o).of_eq fun cs => ?_
    by_cases hnone : letters = [] <;> simp [openBehind, hc, hnone]
  · exact (IsLocal.pure (.group letters)).of_eq fun cs => by simp [openBehind, hc]

theorem isLocal_readFlagOpening : IsLocal readFlagOpening := by
  refine isLocal_iff.mpr (((isLocal_readFlags []).bind (fun letters => isLocal_iff.mp
    (.uncons (isLocal_openBehind_cons letters) rfl)) ?_).of_eq readFlagOpening_eq)
  rintro letters _ o t rfl h
  have hsuffix : t ++ closing <:+ ['$'] := (isLocal_openBehind_cons letters ')').suffix h
  exact not_suffix_dollar hsuffix

theorem isLocal_readGroupName : IsLocal readGroupName where
  suffix {cs _ _} h := by
    unfold readGroupName at h
    split at h
    next first name c t htake hdrop =>
      split at h
      · cases h
        exact (List.suffix_cons c _).trans (hdrop ▸ List.dropWhile_suffix _)
      · cases h
    next => cases h
  without {cs name rest} h := by
    have hclosing : closing.dropWhile (· != '>') = [] := by decide
    rcases dropWhile_append_closing cs hclosing with ⟨hnil, hdrop⟩ | ⟨hne, hdrop, htake⟩
    · simp [readGroupName, hdrop] at h
    · rw [readGroupName, hdrop, htake] at h
      rw [readGroupName]
      rcases hrest : cs.dropWhile (· != '>') with _ | ⟨c, t⟩
      · exact absurd hrest hne
      · rcases hfirst : cs.takeWhile (· != '>') with _ | ⟨first, name⟩
        · simp [hrest, hfirst] at h
        · simp only [hrest, hfirst, List.cons_append] at h ⊢
          split
          next hname =>
            rw [if_pos hname] at h
            exact (IsLocal.pure _).without h
          next hname =>
            rw [if_neg hname] at h
            cases h

theorem isLocal_readOpening : IsLocal readOpening := by
  have hname := isLocal_readGroupName.convert fun name => some (Opening.named name)
  have hangle : IsLocal fun cs => readOpening ('?' :: '<' :: cs) := by
    refine (IsLocal.ifHead '=' (by decide) .fail (.ifHead '!' (by decide) .fail hname)).of_eq
      fun cs => ?_
    rcases cs with _ | ⟨c, t⟩
    · rfl
    · by_cases hc : c = '=' ∨ c = '!'
      · rcases hc with rfl | rfl <;> rfl
      · obtain ⟨heq, hbang⟩ := not_or.mp hc
        cases hread : readGroupName (c :: t) <;> simp [readOpening, heq, hbang, hread]
  have hletter : IsLocal fun cs => readOpening ('?' :: 'P' :: cs) := by
    refine .head '<' (hname.of_eq fun cs => ?_) .fail fun cs h => ?_
    · cases hread : readGroupName cs <;> simp [readOpening, hread]
    · rcases cs with _ | ⟨c, t⟩
      · rfl
      · have hc : c ≠ '<' := by simpa using h
        have hflags : readFlagOpening ('P' :: c :: t) = none := rfl
        simp [readOpening, hc, hflags]
  have hflags : IsLocal fun cs => readOpening ('?' :: cs) := by
    refine .peek (fun c => c == 'P' || c == '<') (fun c hc => ?_) isLocal_readFlagOpening rfl
      fun c cs hc => ?_
    · simp only [Bool.or_eq_true, beq_iff_eq] at hc
      rcases hc with rfl | rfl
      · exact hletter
      · exact hangle
    · simp only [Bool.or_eq_false_iff, beq_eq_false_iff_ne] at hc
      simp [readOpening, hc]
  refine .head '?' hflags (.pure (.group [])) fun cs h => ?_
  unfold readOpening
  split
  · simp at h
  · simp at h
  · simp at h
  · rfl

end MessageKeys.Regex
