import MessageKeys.Pattern.Regex.Escape
import MessageKeys.Proofs.Pattern.Regex.Local

/-!
# Escapes do not look ahead

The readers of escapes are local: of code points, of properties and of word boundaries. There is one
exception. A brace behind the letter of word boundaries begins a name only if something stands
behind it, so that an escape may be complete with the closing behind it and incomplete without. It
leaves the brace then, with nothing but blanks behind it.

## Main definitions

* `MessageKeys.Regex.IsDangling` — what such an escape leaves.

## Main results

* `MessageKeys.Regex.isLocal_readCodePoint`, `MessageKeys.Regex.isLocal_readProperty` — code points
  and properties.
* `MessageKeys.Regex.isLocal_readEscape` — all escapes.
-/

namespace MessageKeys.Regex

variable {f : Flags} {cs rest : List Char} {atom : Atom}

/-! ### Code points -/

theorem isLocal_readHexDigits (f : Flags) (count value : Nat) :
    IsLocal (readHexDigits f count value) := by
  induction count generalizing value with
  | zero => exact .pure value
  | succ count ih => exact .uncons (fun c => .given (hexDigit? c) fun d => (ih _).skip f) rfl

theorem isLocal_readBracedHex (f : Flags) (fuel : Nat) (value? : Option Nat) :
    IsLocal (readBracedHex f fuel value?) := by
  induction fuel generalizing value? with
  | zero => exact .fail
  | succ fuel ih =>
    refine .uncons (fun c => ?_) rfl
    by_cases hc : c = '}'
    · subst hc
      exact (IsLocal.given value? fun value => (IsLocal.pure value).skip f).of_eq fun cs => by
        cases value? <;> rfl
    · have hdigit (d : Nat) := (ih (some (value?.getD 0 * 16 + d))).skip f
      exact (IsLocal.given (hexDigit? c) hdigit).of_eq fun cs => by
        simp only [readBracedHex, Option.bind_eq_bind]

theorem readBracedHex_fuel {n m : Nat} {value? : Option Nat} (hn : cs.length ≤ n)
    (hm : cs.length ≤ m) : readBracedHex f n value? cs = readBracedHex f m value? cs := by
  refine fuel_eq (readBracedHex f) (fun n m _ => ?_) (fun n m value? c cs ih => ?_) hn hm
  · cases n <;> cases m <;> rfl
  · by_cases hc : c = '}'
    · subst hc
      rfl
    · simp only [readBracedHex, ih _ _ (length_skip_le f cs)]

theorem isLocal_readCodePoint (f : Flags) (count : Nat) : IsLocal (readCodePoint f count) := by
  have hbraced :=
    (IsLocal.skipPerChar f (isLocal_readBracedHex f · none) readBracedHex_fuel).convert
      fun n => (charOf? n).map (Atom.char · false)
  have hdigits := (isLocal_readHexDigits f count 0).convert
    fun n => (charOf? n).map (Atom.char · (count == 2))
  refine .skipHead f '{' hbraced hdigits (fun cs t h => ?_) fun cs h => ?_
  · simp only [readCodePoint, h]
    cases readBracedHex f (t.length + 1) none (f.skip t) with
    | none => rfl
    | some p => cases hp : charOf? p.1 <;> simp [hp]
  · rw [readCodePoint]
    split
    next hskip => exact absurd (congrArg List.head? hskip) h
    next =>
      cases readHexDigits f count 0 (f.skip cs) with
      | none => rfl
      | some p => cases hp : charOf? p.1 <;> simp [hp]

/-! ### Properties -/

theorem isLocal_readName (f : Flags) (fuel : Nat) (name : List Char) :
    IsLocal (readName f fuel name) := by
  induction fuel generalizing name with
  | zero => exact .fail
  | succ fuel ih =>
    refine .uncons (fun c => ?_) rfl
    by_cases hc : c = '}'
    · subst hc
      exact .pure _
    · exact ((ih (c :: name)).skip f).of_eq fun cs => by simp only [readName]

theorem readName_fuel {n m : Nat} {name : List Char} (hn : cs.length ≤ n) (hm : cs.length ≤ m) :
    readName f n name cs = readName f m name cs := by
  refine fuel_eq (readName f) (fun n m _ => ?_) (fun n m name c cs ih => ?_) hn hm
  · cases n <;> cases m <;> rfl
  · by_cases hc : c = '}'
    · subst hc
      rfl
    · simp only [readName, ih _ _ (length_skip_le f cs)]

/-- What a property stands for. -/
def propertyAtom? (f : Flags) (negated : Bool) (property : CharSet) (unequal : Bool) :
    Option Atom :=
  let s := f.fold property
  if f.unicode then some (.set (if negated != unequal then .complement s else s)) else none

/-- Reads a property that is one letter. -/
def readPropertyLetter [Dialect] (f : Flags) (negated : Bool) :
    List Char → Option (Atom × List Char)
  | [] => none
  | c :: cs =>
    (if c = '\\' then none else Dialect.named? (String.singleton c)).bind
      fun property => (propertyAtom? f negated property false).bind fun a => some (a, f.skip cs)

theorem isLocal_readPropertyLetter [Dialect] (f : Flags) (negated : Bool) :
    IsLocal (readPropertyLetter f negated) :=
  .uncons (fun _ => .given _ fun property =>
    .given (propertyAtom? f negated property false) fun a => (IsLocal.pure a).skip f) rfl

theorem isLocal_readProperty [Dialect] (f : Flags) (negated : Bool) :
    IsLocal (readProperty f negated) := by
  have hbraced := (IsLocal.skipPerChar f (isLocal_readName f · []) readName_fuel).convert
    fun name => (propertyOf? name).bind fun p => propertyAtom? f negated p.1 p.2
  refine .skipHead f '{' hbraced (isLocal_readPropertyLetter f negated) (fun cs t h => ?_)
    fun cs h => ?_
  · simp only [readProperty, h]
    cases readName f (t.length + 1) [] (f.skip t) with
    | none => rfl
    | some p => cases hp : propertyOf? p.1 <;> cases hu : f.unicode <;> simp [hp, hu, propertyAtom?]
  · rw [readProperty]
    split
    next hskip => exact absurd (congrArg List.head? hskip) h
    next c t _ hskip =>
      rw [hskip]
      by_cases hc : c = '\\'
      · simp [readPropertyLetter, hc]
      · cases hp : Dialect.named? (String.singleton c) <;>
          cases hu : f.unicode <;> cases negated <;>
            simp [readPropertyLetter, hc, hp, hu, propertyAtom?]
    next hskip => simp [readPropertyLetter, hskip]

/-! ### Word boundaries -/

theorem isLocal_readEdgeName (f : Flags) (fuel : Nat) :
    IsLocal fun cs => some (readEdgeName f fuel cs) := by
  induction fuel with
  | zero => exact (IsLocal.pure []).of_eq fun cs => rfl
  | succ fuel ih =>
    refine .peek isEdgeNameChar (fun c hc => ?_) (.pure []) rfl fun c cs hc => by
      simp [readEdgeName, hc]
    exact ((ih.skip f).convert fun name => some (c :: name)).of_eq fun cs => by
      simp [readEdgeName, hc]

theorem readEdgeName_fuel {n m : Nat} (hn : cs.length ≤ n) (hm : cs.length ≤ m) :
    readEdgeName f n cs = readEdgeName f m cs := by
  refine fuel_eq (fun n (_ : Unit) => readEdgeName f n) (fun n m _ => ?_)
    (fun n m _ c cs ih => ?_) (s := ()) hn hm
  · cases n <;> cases m <;> rfl
  · simp only [readEdgeName, ih () _ (length_skip_le f cs)]

/-- Reads the brace behind the name of a word boundary. -/
def readEdgeEnd (f : Flags) (name : List Char) : List Char → Option (Atom × List Char)
  | '}' :: cs => (edgeOf? name).bind fun edge => some (.look (.word edge (!f.unicode)), cs)
  | _ => none

theorem isLocal_readEdgeEnd (f : Flags) (name : List Char) : IsLocal (readEdgeEnd f name) := by
  refine .head '}' (.given _ fun edge => .pure _) .fail fun cs h => ?_
  unfold readEdgeEnd
  split
  · simp at h
  · rfl

/-- Reads the name of a word boundary and the brace behind it. -/
def readEdge (f : Flags) (cs : List Char) : Option (Atom × List Char) :=
  (some (readEdgeName f cs.length cs)).bind fun p => readEdgeEnd f p.1 p.2

theorem isLocal_readEdge (f : Flags) : IsLocal (readEdge f) := by
  have hname : IsLocal fun cs => some (readEdgeName f cs.length cs) :=
    .perChar (isLocal_readEdgeName f) fun hn hm => by rw [readEdgeName_fuel hn hm]
  exact hname.bind (isLocal_readEdgeEnd f)

theorem readBoundary_brace {c : Char} {t : List Char} (h : f.skip cs = c :: t) :
    readBoundary f ('{' :: cs) = if isEdgeNameChar c then readEdge f (c :: t)
      else some (.look (.word .boundary (!f.unicode)), '{' :: cs) := by
  simp only [readBoundary, h, readEdge, Option.bind_some, List.length_cons]
  split
  · rcases readEdgeName f (t.length + 1) (c :: t) with ⟨name, rest⟩
    dsimp only [readEdgeEnd]
    split <;> split <;> simp_all
  · rfl

theorem readBoundary_ne_brace (h : cs.head? ≠ some '{') :
    readBoundary f cs = some (.look (.word .boundary (!f.unicode)), cs) := by
  unfold readBoundary
  split
  · simp at h
  · rfl

/-- A brace was left with nothing but blanks behind it. -/
def IsOpenBrace (f : Flags) (rest : List Char) : Prop := ∃ t, rest = '{' :: t ∧ f.skip t = []

/-- A condition was read, and an open brace was left. -/
def IsDangling (f : Flags) (atom : Atom) (rest : List Char) : Prop :=
  (∃ l, atom = .look l) ∧ IsOpenBrace f rest

theorem skip_brace (f : Flags) (cs : List Char) : f.skip ('{' :: cs) = '{' :: cs := by
  cases h : f.verbose <;> simp [Flags.skip, h, Flags.skipBlanks, isBlankChar]

theorem isLocal_readBoundary (f : Flags) : IsLocalUnless (IsDangling f) (readBoundary f) where
  suffix {cs _ _} h := by
    by_cases hbrace : cs.head? = some '{'
    · obtain ⟨cs, rfl⟩ := List.head?_eq_some_iff.mp hbrace
      cases hskip : f.skip cs with
      | nil => simp [readBoundary, hskip] at h
      | cons c t =>
        rw [readBoundary_brace hskip] at h
        split at h
        · have hsuffix := (isLocal_readEdge f).suffix h
          exact (hsuffix.trans (hskip ▸ skip_suffix f cs)).trans (List.suffix_cons ..)
        · cases h
          exact List.suffix_refl _
    · cases (readBoundary_ne_brace hbrace).symm.trans h
      exact List.suffix_refl _
  without {cs _ _} h := by
    by_cases hbrace : cs.head? = some '{'
    · obtain ⟨cs, rfl⟩ := List.head?_eq_some_iff.mp hbrace
      rw [List.cons_append] at h
      rcases skip_append_closing f cs with hskip | hskip
      · cases hrest : f.skip cs with
        | nil =>
          rw [hrest] at hskip
          rw [readBoundary_brace hskip, if_neg (by decide)] at h
          simp only [Option.some.injEq, Prod.mk.injEq] at h
          exact .inr ⟨⟨_, h.1.symm⟩, cs, (List.append_cancel_right h.2).symm, hrest⟩
        | cons c t =>
          rw [hrest] at hskip
          rw [readBoundary_brace hskip] at h
          rw [readBoundary_brace hrest]
          split
          next hc =>
            rw [if_pos hc] at h
            exact .inl ((isLocal_readEdge f).without h)
          next hc =>
            rw [if_neg hc] at h
            exact .inl ((IsLocal.pure _).without h)
      · simp [readBoundary, hskip] at h
    · have hclosing : (cs ++ closing).head? ≠ some '{' := by
        cases cs <;> simp_all [closing]
      rw [readBoundary_ne_brace hclosing] at h
      rw [readBoundary_ne_brace hbrace]
      exact .inl ((IsLocal.pure _).without h)

/-! ### All escapes -/

/-- What stands for a set or for itself behind a backslash. -/
def plainAtom? (f : Flags) (c : Char) : Option Atom :=
  match letterSet? f c with
  | some s => some (.set s)
  | none => if isEscapable c then some (.char c false) else none

theorem isLocal_readEscape_of_ne [Dialect] {c : Char} (hc : c ≠ 'b') :
    IsLocal fun cs => readEscape f (c :: cs) := by
  by_cases h : c ∈ ['x', 'u', 'U', 'p', 'P', 'a', 'f', 't', 'n', 'r', 'v', 'A', 'z', 'B', '<', '>']
  · simp only [List.mem_cons, List.not_mem_nil, or_false] at h
    rcases h with rfl | rfl | rfl | rfl | rfl | rfl | rfl | rfl | rfl | rfl | rfl | rfl | rfl |
      rfl | rfl | rfl
    · exact isLocal_readCodePoint f 2
    · exact isLocal_readCodePoint f 4
    · exact isLocal_readCodePoint f 8
    · exact isLocal_readProperty f false
    · exact isLocal_readProperty f true
    all_goals exact .pure _
  · refine (IsLocal.given (plainAtom? f c) .pure).of_eq fun cs => ?_
    simp only [readEscape, plainAtom?]
    split
    case h_18 =>
      cases letterSet? f c with
      | some s => rfl
      | none => by_cases hescapable : isEscapable c <;> simp [hescapable]
    all_goals simp at h hc

theorem isLocal_readEscape_cons [Dialect] (f : Flags) (c : Char) :
    IsLocalUnless (IsDangling f) fun cs => readEscape f (c :: cs) := by
  by_cases hc : c = 'b'
  · subst hc
    exact isLocal_readBoundary f
  · exact (isLocal_readEscape_of_ne hc).unless _

/-- An escape is the same without the closing, or it asks for a condition and leaves a brace with
nothing behind it. -/
theorem isLocal_readEscape [Dialect] (f : Flags) :
    IsLocalUnless (IsDangling f) (readEscape f) :=
  .uncons (isLocal_readEscape_cons f) rfl

end MessageKeys.Regex
