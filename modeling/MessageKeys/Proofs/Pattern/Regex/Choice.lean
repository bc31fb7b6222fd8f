import MessageKeys.Proofs.Pattern.Regex.Part

/-!
# Expressions before the closing

An expression is read part by part, and the end of its group is looked for between the parts. So a
text behind the opening of a group, with the closing behind it, is read in one of two ways. Either
it closes the group itself; then it does so without the closing too, and it is no expression by
itself. Or the closing closes the group; then the text is an expression, and the same one.

## Main definitions

* `MessageKeys.Regex.readPart` — the next part of a choice.
* `MessageKeys.Regex.readToEnd` — a group up to its end, as a reader.

## Main results

* `MessageKeys.Regex.readChoice_of_skip_cons` — one part, and the rest.
* `MessageKeys.Regex.isLocal_readPart_cons` — parts do not look ahead.
* `MessageKeys.Regex.isLocal_readToEnd` — texts that close their group.
* `MessageKeys.Regex.readChoice_of_closing` — texts whose group the closing closes.
* `MessageKeys.Regex.readChoice_fuel` — how many steps are enough.
-/

namespace MessageKeys.Regex

variable [Dialect] {fuel : Nat} {o : OpenChoice} {names : List String} {cs rest : List Char}

/-! ### Parts of a choice -/

/-- Reads an inner group, as a part of a choice. -/
def readInner (fuel : Nat) (o : OpenChoice) (letters : List Char) (names : List String)
    (cs : List Char) : Option ((OpenChoice × List String) × List Char) :=
  (readChoice fuel true ⟨o.flags.setAll true letters, [], []⟩ names cs).map fun inner =>
    ((o.add ⟨inner.node.regex, inner.node.depth + 1⟩, inner.names), inner.rest)

/-- Goes on behind the opening of a group. -/
def readGroup (fuel : Nat) (o : OpenChoice) (names : List String) :
    Opening → List Char → Option ((OpenChoice × List String) × List Char)
  | .flags letters, cs =>
    some (({ o with flags := o.flags.setAll true letters, parts := .flags :: o.parts }, names), cs)
  | .group letters, cs => readInner fuel o letters names cs
  | .named name, cs =>
    if names.contains name then none else readInner fuel o [] (name :: names) cs

/-- Reads the next part of a choice, or what stands between parts. -/
def readPart (fuel : Nat) (o : OpenChoice) (names : List String) :
    List Char → Option ((OpenChoice × List String) × List Char)
  | [] => none
  | '|' :: cs => some ((o.bar, names), cs)
  | '(' :: cs => (readOpening (o.flags.skip cs)).bind fun p => readGroup fuel o names p.1 p.2
  | '[' :: cs => (readBracket o.flags (2 * cs.length + 2) cs).bind fun p =>
      some ((o.add ⟨.chars p.1.set, p.1.depth⟩, names), p.2)
  | '?' :: cs => (o.repeatLast? ⟨0, some 1⟩).bind fun o => some ((o, names), skipLazy cs)
  | '*' :: cs => (o.repeatLast? ⟨0, none⟩).bind fun o => some ((o, names), skipLazy cs)
  | '+' :: cs => (o.repeatLast? ⟨1, none⟩).bind fun o => some ((o, names), skipLazy cs)
  | '{' :: cs => (readCount o.flags cs).bind fun p =>
      (o.repeatLast? p.1).map fun o => ((o, names), p.2)
  | cs => (readAtom o.flags cs).bind fun p => some ((o.add ⟨p.1, 0⟩, names), p.2)

theorem readPart_of_ne {c : Char}
    (hc : ¬c = '|' ∧ ¬c = '(' ∧ ¬c = '[' ∧ ¬c = '?' ∧ ¬c = '*' ∧ ¬c = '+' ∧ ¬c = '{') :
    readPart fuel o names (c :: cs) =
      (readAtom o.flags (c :: cs)).bind fun p => some ((o.add ⟨p.1, 0⟩, names), p.2) := by
  unfold readPart
  split <;> simp_all

theorem readChoice_of_skip_nil (h : o.flags.skip cs = []) (inGroup : Bool) :
    readChoice (fuel + 1) inGroup o names cs =
      if inGroup then none else some ⟨o.close, names, []⟩ := by
  rw [readChoice, h]

theorem readChoice_of_skip_paren {t : List Char} (h : o.flags.skip cs = ')' :: t) (inGroup : Bool) :
    readChoice (fuel + 1) inGroup o names cs =
      if inGroup then some ⟨o.close, names, t⟩ else none := by
  rw [readChoice, h]
  rfl

theorem readChoice_of_skip_cons {c : Char} {t : List Char} (h : o.flags.skip cs = c :: t)
    (hc : c ≠ ')') (inGroup : Bool) :
    readChoice (fuel + 1) inGroup o names cs = (readPart fuel o names (c :: t)).bind fun p =>
      readChoice fuel inGroup p.1.1 p.1.2 p.2 := by
  rw [readChoice, h]
  by_cases hspecial : c ∈ ['|', '(', '[', '?', '*', '+', '{']
  · simp only [List.mem_cons, List.not_mem_nil, or_false] at hspecial
    rcases hspecial with rfl | rfl | rfl | rfl | rfl | rfl | rfl
    · rfl
    · simp only [readPart]
      rcases readOpening (o.flags.skip t) with _ | ⟨letters | letters | name, t⟩
      · rfl
      · rfl
      · simp only [Option.bind_some, readGroup, readInner, Option.bind_map]
        rfl
      · by_cases hname : names.contains name
        · simp only [Option.bind_some, readGroup, hname, if_true]
          rfl
        · simp only [Option.bind_some, readGroup, hname, Bool.false_eq_true, if_false, readInner,
            Option.bind_map]
          rfl
    · simp only [readPart]
      cases readBracket o.flags (2 * t.length + 2) t <;> rfl
    · simp only [readPart]
      cases o.repeatLast? ⟨0, some 1⟩ <;> rfl
    · simp only [readPart]
      cases o.repeatLast? ⟨0, none⟩ <;> rfl
    · simp only [readPart]
      cases o.repeatLast? ⟨1, none⟩ <;> rfl
    · simp only [readPart]
      rcases readCount o.flags t with _ | ⟨count, t⟩
      · rfl
      · simp only [Option.bind_eq_bind, Option.bind_some]
        cases o.repeatLast? count <;> rfl
  · simp only [List.mem_cons, List.not_mem_nil, or_false, not_or] at hspecial
    rw [readPart_of_ne hspecial]
    split <;> simp_all
    cases readAtom o.flags (c :: t) <;> rfl

/-! ### Parts do not look ahead -/

/-- Reads a group up to its end. -/
def readToEnd (fuel : Nat) (o : OpenChoice) (names : List String) (cs : List Char) :
    Option ((Node × List String) × List Char) :=
  (readChoice fuel true o names cs).map fun read => ((read.node, read.names), read.rest)

theorem isLocal_readGroup (hend : ∀ o names, IsLocal (readToEnd fuel o names)) (opening : Opening) :
    IsLocal (readGroup fuel o names opening) := by
  have hinner (letters : List Char) (names : List String) :
      IsLocal (readInner fuel o letters names) := by
    refine ((hend ⟨o.flags.setAll true letters, [], []⟩ names).convert fun inner =>
      some (o.add ⟨inner.1.regex, inner.1.depth + 1⟩, inner.2)).of_eq fun cs => ?_
    rw [readInner, readToEnd]
    cases readChoice fuel true ⟨o.flags.setAll true letters, [], []⟩ names cs <;> rfl
  cases opening with
  | flags letters => exact .pure _
  | group letters => exact hinner letters names
  | named name =>
    by_cases hname : names.contains name
    · exact IsLocal.fail.of_eq fun cs => if_pos hname
    · exact (hinner [] (name :: names)).of_eq fun cs => if_neg hname

theorem isLocal_readPart_cons (hend : ∀ o names, IsLocal (readToEnd fuel o names))
    (o : OpenChoice) (names : List String) (c : Char) :
    IsLocalUnless (fun x => IsOpenBrace x.1.flags) fun cs => readPart fuel o names (c :: cs) := by
  have hrepeat (count : Count) : IsLocal fun cs =>
      (o.repeatLast? count).bind fun o => some ((o, names), skipLazy cs) :=
    .given _ fun o => isLocal_skipLazy (o, names)
  by_cases hc : c ∈ ['|', '(', '[', '?', '*', '+', '{']
  · simp only [List.mem_cons, List.not_mem_nil, or_false] at hc
    refine IsLocal.unless ?_ _
    rcases hc with rfl | rfl | rfl | rfl | rfl | rfl | rfl
    · exact .pure _
    · exact (isLocal_readOpening.skip o.flags).bind (isLocal_readGroup hend)
    · exact (isLocal_readBracket o.flags).convert fun s =>
        some (o.add ⟨.chars s.set, s.depth⟩, names)
    · exact hrepeat ⟨0, some 1⟩
    · exact hrepeat ⟨0, none⟩
    · exact hrepeat ⟨1, none⟩
    · refine ((isLocal_readCount o.flags).convert fun count =>
        (o.repeatLast? count).map fun o => (o, names)).of_eq fun cs => ?_
      simp [readPart, Function.comp_def]
  · simp only [List.mem_cons, List.not_mem_nil, or_false, not_or] at hc
    refine ((isLocal_readAtom_cons o.flags c).convert (fun r => some (o.add ⟨r, 0⟩, names))
      fun heq hbrace => ?_).of_eq fun cs => readPart_of_ne hc
    cases heq
    exact hbrace

/-- No part begins with a brace that is not closed before the closing. -/
theorem readChoice_openBrace (h : IsOpenBrace o.flags rest) (inGroup : Bool) :
    readChoice fuel inGroup o names (rest ++ closing) = none := by
  obtain ⟨t, rfl, ht⟩ := h
  cases fuel with
  | zero => rfl
  | succ fuel =>
    have hbrace : ('{' : Char) ≠ ')' := by decide
    rw [List.cons_append, readChoice_of_skip_cons (skip_brace ..) hbrace]
    simp [readPart, readCount_append_closing ht]

/-- Reads a group up to its end, if the next character counts. -/
def readOn (fuel : Nat) (o : OpenChoice) (names : List String) :
    List Char → Option ((Node × List String) × List Char)
  | [] => none
  | c :: cs =>
    if c = ')' then some ((o.close, names), cs)
    else (readPart fuel o names (c :: cs)).bind fun p => readToEnd fuel p.1.1 p.1.2 p.2

theorem readToEnd_succ (fuel : Nat) (o : OpenChoice) (names : List String) (cs : List Char) :
    readToEnd (fuel + 1) o names cs = readOn fuel o names (o.flags.skip cs) := by
  rw [readToEnd]
  cases hskip : o.flags.skip cs with
  | nil =>
    rw [readChoice_of_skip_nil hskip]
    rfl
  | cons c t =>
    by_cases hc : c = ')'
    · subst hc
      rw [readChoice_of_skip_paren hskip]
      rfl
    · rw [readChoice_of_skip_cons hskip hc, readOn, if_neg hc, Option.map_bind]
      rfl

/-- Groups are read without looking ahead. -/
theorem isLocal_readToEnd (fuel : Nat) (o : OpenChoice) (names : List String) :
    IsLocal (readToEnd fuel o names) := by
  induction fuel generalizing o names with
  | zero => exact .fail
  | succ fuel ih =>
    have hon : IsLocal (readOn fuel o names) := by
      refine .uncons (fun c => ?_) rfl
      by_cases hc : c = ')'
      · exact (IsLocal.pure (o.close, names)).of_eq fun cs => if_pos hc
      · have hpart := (isLocal_readPart_cons ih o names c).bind
          (fun x => isLocal_iff.mp (ih x.1 x.2)) fun {x rest y t} hbrace => by
            simp [readToEnd, readChoice_openBrace hbrace]
        exact (isLocal_iff.mpr hpart).of_eq fun cs => if_neg hc
    exact (hon.skip o.flags).of_eq (readToEnd_succ fuel o names)

/-! ### The group around a text -/

variable {read : ReadChoice} {c : Char} {n m : Nat} {inGroup : Bool}

theorem readPart_suffix {x : OpenChoice × List String}
    (h : readPart fuel o names (c :: cs) = some (x, rest)) : rest <:+ cs :=
  (isLocal_readPart_cons (isLocal_readToEnd fuel) o names c).suffix h

/-- A text that closes a group has more in it than an expression. -/
theorem readChoice_false_of_true (h : readChoice fuel true o names cs = some read) :
    readChoice fuel false o names cs = none := by
  induction fuel generalizing o names cs with
  | zero => cases h
  | succ fuel ih =>
    cases hskip : o.flags.skip cs with
    | nil => simp [readChoice_of_skip_nil hskip] at h
    | cons c t =>
      by_cases hc : c = ')'
      · subst hc
        simp [readChoice_of_skip_paren hskip]
      · rw [readChoice_of_skip_cons hskip hc] at h ⊢
        obtain ⟨p, hpart, hrest⟩ := Option.bind_eq_some_iff.mp h
        rw [hpart, Option.bind_some, ih hrest]

/-- Behind the end of the group around a text no group is closed. -/
theorem readChoice_short (h : cs <:+ ['$']) : readChoice fuel true o names cs = none := by
  have hnil (fuel : Nat) (o : OpenChoice) (names : List String) :
      readChoice fuel true o names [] = none := by
    cases fuel with
    | zero => rfl
    | succ fuel => exact readChoice_of_skip_nil (List.suffix_nil.mp (skip_suffix ..)) true
  rcases List.suffix_cons_iff.mp h with rfl | h
  · cases fuel with
    | zero => rfl
    | succ fuel =>
      have hskip : o.flags.skip ['$'] = ['$'] := by
        cases hv : o.flags.verbose <;> simp [Flags.skip, hv, Flags.skipBlanks, isBlankChar]
      have hdollar : ('$' : Char) ≠ ')' := by decide
      rw [readChoice_of_skip_cons hskip hdollar]
      refine Option.bind_eq_none_iff.mpr fun p hpart => ?_
      rw [List.suffix_nil.mp (readPart_suffix hpart), hnil]
  · rw [List.suffix_nil.mp h, hnil]

/-- A text whose group is closed by the closing is an expression. -/
theorem readChoice_of_closing (h : readChoice fuel true o names (cs ++ closing) = some read)
    (hshort : read.rest <:+ ['$']) :
    read.rest = ['$'] ∧ readChoice fuel false o names cs = some ⟨read.node, read.names, []⟩ := by
  induction fuel generalizing o names cs with
  | zero => cases h
  | succ fuel ih =>
    rcases skip_append_closing o.flags cs with hskip | hskip
    · cases hrest : o.flags.skip cs with
      | nil =>
        rw [hrest] at hskip
        rw [readChoice_of_skip_paren hskip] at h
        cases h
        exact ⟨rfl, readChoice_of_skip_nil hrest false⟩
      | cons c t =>
        rw [hrest] at hskip
        by_cases hc : c = ')'
        · subst hc
          rw [readChoice_of_skip_paren hskip] at h
          cases h
          exact absurd hshort not_suffix_dollar
        · rw [readChoice_of_skip_cons hskip hc] at h
          rw [readChoice_of_skip_cons hrest hc]
          obtain ⟨⟨x, r⟩, hpart, hread⟩ := Option.bind_eq_some_iff.mp h
          rcases suffix_append_closing (readPart_suffix hpart) with ⟨r, rfl⟩ | hr
          · rcases (isLocal_readPart_cons (isLocal_readToEnd fuel) o names c).without hpart with
              hpart | hbrace
            · rw [hpart, Option.bind_some]
              exact ih hread
            · simp [readChoice_openBrace hbrace] at hread
          · simp [readChoice_short hr] at hread
    · simp [readChoice_of_skip_nil hskip] at h

/-! ### Steps -/

theorem readPart_congr
    (h : ∀ inGroup o names t, t.length ≤ cs.length →
      readChoice n inGroup o names t = readChoice m inGroup o names t) :
    readPart n o names (c :: cs) = readPart m o names (c :: cs) := by
  by_cases hc : c = '('
  · subst hc
    simp only [readPart]
    cases hopening : readOpening (o.flags.skip cs) with
    | none => rfl
    | some p =>
      have hlength : p.2.length ≤ cs.length :=
        ((isLocal_readOpening.skip o.flags).suffix hopening).length_le
      rcases p with ⟨letters | letters | name, t⟩
      · rfl
      · simp only [Option.bind_some, readGroup, readInner, h _ _ _ t hlength]
      · simp only [Option.bind_some, readGroup, readInner, h _ _ _ t hlength]
  · unfold readPart
    split <;> simp_all

theorem readChoice_fuel (hn : cs.length < n) (hm : cs.length < m) :
    readChoice n inGroup o names cs = readChoice m inGroup o names cs := by
  induction n generalizing m inGroup o names cs with
  | zero => omega
  | succ n ih =>
    cases m with
    | zero => omega
    | succ m =>
      have hlength := length_skip_le o.flags cs
      cases hskip : o.flags.skip cs with
      | nil => rw [readChoice_of_skip_nil hskip, readChoice_of_skip_nil hskip]
      | cons c t =>
        rw [hskip, List.length_cons] at hlength
        by_cases hc : c = ')'
        · subst hc
          rw [readChoice_of_skip_paren hskip, readChoice_of_skip_paren hskip]
        · have hless (inGroup : Bool) (o : OpenChoice) (names : List String) (u : List Char)
              (hu : u.length ≤ t.length) :
              readChoice n inGroup o names u = readChoice m inGroup o names u :=
            ih (by omega) (by omega)
          rw [readChoice_of_skip_cons hskip hc, readChoice_of_skip_cons hskip hc,
            readPart_congr hless]
          cases hpart : readPart m o names (c :: t) with
          | none => rfl
          | some p => exact hless _ _ _ _ (readPart_suffix hpart).length_le

end MessageKeys.Regex
