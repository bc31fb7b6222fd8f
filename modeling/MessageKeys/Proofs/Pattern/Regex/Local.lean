import MessageKeys.Pattern.Regex.Flags

/-!
# Readers that do not look ahead

A reader takes a piece from the front of a text and leaves the rest. Behind the text of a pattern
stand two more characters, which close its group and ask for the end of a name. A reader is *local*
if it leaves an end of its text, and if, whenever it leaves both characters, it reads the same
without them. Readers that are made of local ones are local.

## Main definitions

* `MessageKeys.Regex.Reader` — readers.
* `MessageKeys.Regex.closing` — what stands behind the text of a pattern.
* `MessageKeys.Regex.IsLocal` — readers that do not look at what they leave.
* `MessageKeys.Regex.IsLocalUnless` — readers that do so in dead ends only.

## Main results

* `MessageKeys.Regex.IsLocal.bind`, `MessageKeys.Regex.IsLocal.skip`,
  `MessageKeys.Regex.IsLocal.uncons`, `MessageKeys.Regex.IsLocal.head` — readers made of local ones.
-/

namespace MessageKeys.Regex

variable {α β : Type}

/-- Takes something from the front of a text and leaves the rest. -/
abbrev Reader (α : Type) := List Char → Option (α × List Char)

/-- What stands behind the text of a pattern: the end of its group and the end of a name. -/
def closing : List Char := [')', '$']

theorem eq_append_of_suffix {cs rest : List Char} (h : rest ++ closing <:+ cs) :
    ∃ t, cs = t ++ closing := by
  obtain ⟨s, rfl⟩ := h
  exact ⟨s ++ rest, (List.append_assoc s rest closing).symm⟩

theorem not_suffix_dollar {rest : List Char} : ¬rest ++ closing <:+ ['$'] := by
  intro hsuffix
  have hlength := hsuffix.length_le
  simp only [closing, List.length_append, List.length_cons] at hlength
  omega

/-- What is left of a text with the closing has the closing too, or is left of the closing. -/
theorem suffix_append_closing {cs rest : List Char} (h : rest <:+ cs ++ closing) :
    (∃ t, rest = t ++ closing) ∨ rest <:+ ['$'] := by
  rcases List.suffix_or_suffix_of_suffix h (List.suffix_append cs closing) with h | ⟨t, rfl⟩
  · rcases List.suffix_cons_iff.mp h with rfl | h
    · exact .inl ⟨[], rfl⟩
    · exact .inr h
  · exact .inl ⟨t, rfl⟩

/-- What stands behind the first characters with a property, if that ends before the closing. -/
theorem dropWhile_append_closing {p : Char → Bool} (cs : List Char)
    (hp : closing.dropWhile p = []) :
    (cs.dropWhile p = [] ∧ (cs ++ closing).dropWhile p = []) ∨
      cs.dropWhile p ≠ [] ∧ (cs ++ closing).dropWhile p = cs.dropWhile p ++ closing ∧
        (cs ++ closing).takeWhile p = cs.takeWhile p := by
  by_cases hnil : cs.dropWhile p = []
  · exact .inl ⟨hnil, by simp [List.dropWhile_append, hnil, hp]⟩
  · have htake : (cs.takeWhile p).length ≠ cs.length := by
      have hlength := congrArg List.length (List.takeWhile_append_dropWhile (p := p) (l := cs))
      have hpos := List.length_pos_iff.mpr hnil
      rw [List.length_append] at hlength
      omega
    exact .inr ⟨hnil, by simp [List.dropWhile_append, hnil], by simp [List.takeWhile_append, htake]⟩

/-! ### Blanks -/

theorem skipBlanks_suffix (inComment : Bool) (cs : List Char) :
    Flags.skipBlanks inComment cs <:+ cs := by
  fun_induction Flags.skipBlanks inComment cs with
  | case1 => exact List.suffix_refl _
  | case2 c cs ih => exact ih.trans (List.suffix_cons ..)
  | case3 c cs h ih => exact ih.trans (List.suffix_cons ..)
  | case4 cs h ih => exact ih.trans (List.suffix_cons ..)
  | case5 => exact List.suffix_refl _

theorem skip_suffix (f : Flags) (cs : List Char) : f.skip cs <:+ cs := by
  rw [Flags.skip]
  split
  · exact skipBlanks_suffix false cs
  · exact List.suffix_refl _

/-- In a comment without an end what stands behind it is lost. -/
theorem skipBlanks_append_closing (inComment : Bool) (cs : List Char) :
    Flags.skipBlanks inComment (cs ++ closing) = Flags.skipBlanks inComment cs ++ closing ∨
      Flags.skipBlanks inComment (cs ++ closing) = [] := by
  fun_induction Flags.skipBlanks inComment cs with
  | case1 inComment => cases inComment <;> simp [Flags.skipBlanks, closing, isBlankChar]
  | case2 c cs ih => simpa [Flags.skipBlanks] using ih
  | case3 c cs h ih => simpa [Flags.skipBlanks, h] using ih
  | case4 cs h ih => simpa [Flags.skipBlanks, h] using ih
  | case5 c cs h h' => simp [Flags.skipBlanks, h, h']

theorem skip_append_closing (f : Flags) (cs : List Char) :
    f.skip (cs ++ closing) = f.skip cs ++ closing ∨ f.skip (cs ++ closing) = [] := by
  simp only [Flags.skip]
  split
  · exact skipBlanks_append_closing false cs
  · exact .inl rfl

/-- If blanks are skipped up to a place before the closing, they are skipped to it without it. -/
theorem skip_eq_of_append {f : Flags} {cs t : List Char}
    (h : f.skip (cs ++ closing) = t ++ closing) : f.skip cs = t := by
  rcases skip_append_closing f cs with hskip | hskip
  · exact List.append_cancel_right (hskip.symm.trans h)
  · exact absurd (hskip.symm.trans h) (by simp [closing])

theorem length_skip_le (f : Flags) (cs : List Char) : (f.skip cs).length ≤ cs.length :=
  (skip_suffix f cs).length_le

/-! ### Local readers -/

/-- A reader leaves an end of its text, and where it leaves the closing, it reads the same without
the closing. -/
structure IsLocal (read : Reader α) : Prop where
  suffix {cs x rest} : read cs = some (x, rest) → rest <:+ cs
  without {cs x rest} : read (cs ++ closing) = some (x, rest ++ closing) → read cs = some (x, rest)

/-- The same unless what was read, and what was left before the closing, are in a dead end. -/
structure IsLocalUnless (dead : α → List Char → Prop) (read : Reader α) : Prop where
  suffix {cs x rest} : read cs = some (x, rest) → rest <:+ cs
  without {cs x rest} : read (cs ++ closing) = some (x, rest ++ closing) →
    read cs = some (x, rest) ∨ dead x rest

theorem IsLocal.unless {read : Reader α} (h : IsLocal read)
    (dead : α → List Char → Prop) : IsLocalUnless dead read :=
  ⟨h.suffix, fun hread => .inl (h.without hread)⟩

theorem isLocal_iff {read : Reader α} :
    IsLocal read ↔ IsLocalUnless (fun _ _ => False) read :=
  ⟨fun h => h.unless _, fun h => ⟨h.suffix, fun hread => (h.without hread).resolve_right id⟩⟩

namespace IsLocalUnless

variable {read : Reader α} {next : α → Reader β} {dead : α → List Char → Prop}
  {dead' : β → List Char → Prop}

theorem of_eq {other : Reader α} (h : IsLocalUnless dead other)
    (heq : ∀ cs, read cs = other cs) : IsLocalUnless dead read := by
  rwa [funext heq]

/-- What does not count is skipped first. -/
theorem skip (f : Flags) (h : IsLocalUnless dead read) :
    IsLocalUnless dead fun cs => read (f.skip cs) where
  suffix hread := (h.suffix hread).trans (skip_suffix f _)
  without {cs} _ _ hread := by
    obtain ⟨t, ht⟩ := eq_append_of_suffix (h.suffix hread)
    rw [ht] at hread
    rw [skip_eq_of_append ht]
    exact h.without hread

/-- One reader goes on where another one stops, which it cannot in a dead end. -/
theorem bind (h : IsLocalUnless dead read) (hnext : ∀ x, IsLocalUnless dead' (next x))
    (hdead : ∀ {x rest y t}, dead x rest → next x (rest ++ closing) ≠ some (y, t ++ closing)) :
    IsLocalUnless dead' fun cs => (read cs).bind fun p => next p.1 p.2 where
  suffix hread := by
    obtain ⟨⟨x, t⟩, hfirst, hsecond⟩ := Option.bind_eq_some_iff.mp hread
    exact ((hnext x).suffix hsecond).trans (h.suffix hfirst)
  without hread := by
    obtain ⟨⟨x, t⟩, hfirst, hsecond⟩ := Option.bind_eq_some_iff.mp hread
    obtain ⟨t, rfl⟩ := eq_append_of_suffix ((hnext x).suffix hsecond)
    rcases h.without hfirst with hfirst | hx
    · exact ((hnext x).without hsecond).imp_left fun hsecond =>
        Option.bind_eq_some_iff.mpr ⟨(x, t), hfirst, hsecond⟩
    · exact absurd hsecond (hdead hx)

/-- What was read is turned into something, or refused. -/
theorem convert (h : IsLocalUnless dead read) (convert? : α → Option β)
    (hdead : ∀ {x y rest}, convert? x = some y → dead x rest → dead' y rest) :
    IsLocalUnless dead' fun cs => (read cs).bind fun p => (convert? p.1).map fun y => (y, p.2) where
  suffix hread := by
    obtain ⟨⟨x, t⟩, hfirst, hsecond⟩ := Option.bind_eq_some_iff.mp hread
    obtain ⟨_, -, heq⟩ := Option.map_eq_some_iff.mp hsecond
    cases heq
    exact h.suffix hfirst
  without hread := by
    obtain ⟨⟨x, t⟩, hfirst, hsecond⟩ := Option.bind_eq_some_iff.mp hread
    obtain ⟨y, hy, heq⟩ := Option.map_eq_some_iff.mp hsecond
    cases heq
    exact (h.without hfirst).imp (fun hx => by simp [hx, hy]) (hdead hy)

/-- A reader looks at a character. -/
theorem uncons (hcons : ∀ c, IsLocalUnless dead fun cs => read (c :: cs)) (hnil : read [] = none) :
    IsLocalUnless dead read where
  suffix {cs} _ _ hread := by
    cases cs with
    | nil => simp [hnil] at hread
    | cons c cs => exact ((hcons c).suffix hread).trans (List.suffix_cons ..)
  without {cs} _ rest hread := by
    cases cs with
    | nil =>
      have hsuffix : rest ++ closing <:+ ['$'] := (hcons ')').suffix hread
      exact absurd hsuffix not_suffix_dollar
    | cons c cs => exact (hcons c).without hread

/-- A reader that looks at a character leaves less than it was given. -/
theorem length_lt (hcons : ∀ c, IsLocalUnless dead fun cs => read (c :: cs)) (hnil : read [] = none)
    {cs rest : List Char} {x : α} (hread : read cs = some (x, rest)) : rest.length < cs.length := by
  cases cs with
  | nil => simp [hnil] at hread
  | cons c cs => exact Nat.lt_succ_of_le ((hcons c).suffix hread).length_le

end IsLocalUnless

namespace IsLocal

variable {read other : Reader α} {next : α → Reader β}

theorem of_eq (h : IsLocal other) (heq : ∀ cs, read cs = other cs) : IsLocal read := by
  rwa [funext heq]

theorem pure (x : α) : IsLocal fun cs => some (x, cs) where
  suffix h := by cases h; exact List.suffix_refl _
  without h := by
    simp only [Option.some.injEq, Prod.mk.injEq] at h ⊢
    exact ⟨h.1, List.append_cancel_right h.2⟩

theorem fail : IsLocal fun _ => (none : Option (α × List Char)) where
  suffix h := by cases h
  without h := by cases h

/-- What does not count is skipped first. -/
theorem skip (f : Flags) (h : IsLocal read) : IsLocal fun cs => read (f.skip cs) :=
  isLocal_iff.mpr ((isLocal_iff.mp h).skip f)

/-- One reader goes on where another one stops. -/
theorem bind (h : IsLocal read) (hnext : ∀ x, IsLocal (next x)) :
    IsLocal fun cs => (read cs).bind fun p => next p.1 p.2 :=
  isLocal_iff.mpr ((isLocal_iff.mp h).bind (fun x => isLocal_iff.mp (hnext x)) fun h => h.elim)

/-- A reader that needs something which does not depend on the text. -/
theorem given (x? : Option α) (hnext : ∀ x, IsLocal (next x)) :
    IsLocal fun cs => x?.bind fun x => next x cs := by
  cases x? with
  | none => exact fail
  | some x => exact hnext x

/-- What was read is turned into something, or refused. -/
theorem convert (h : IsLocal read) (convert? : α → Option β) :
    IsLocal fun cs => (read cs).bind fun p => (convert? p.1).map fun y => (y, p.2) :=
  isLocal_iff.mpr ((isLocal_iff.mp h).convert convert? fun _ h => h)

/-- A reader looks at a character. -/
theorem uncons (hcons : ∀ c, IsLocal fun cs => read (c :: cs)) (hnil : read [] = none) :
    IsLocal read :=
  isLocal_iff.mpr (.uncons (fun c => isLocal_iff.mp (hcons c)) hnil)

/-- A reader that goes on in another way behind certain characters. -/
theorem peek (p : Char → Bool) (hheaded : ∀ c, p c = true → IsLocal fun cs => read (c :: cs))
    (hother : IsLocal other) (hnil : read [] = other [])
    (hcons : ∀ c cs, p c = false → read (c :: cs) = other (c :: cs)) : IsLocal read where
  suffix {cs} _ _ hread := by
    cases cs with
    | nil => exact hother.suffix (hnil ▸ hread)
    | cons c cs =>
      cases hp : p c with
      | true => exact ((hheaded c hp).suffix hread).trans (List.suffix_cons ..)
      | false => exact hother.suffix (hcons c cs hp ▸ hread)
  without {cs} _ rest hread := by
    cases cs with
    | nil =>
      cases hp : p ')' with
      | true =>
        have hsuffix : rest ++ closing <:+ ['$'] := (hheaded ')' hp).suffix hread
        exact absurd hsuffix not_suffix_dollar
      | false =>
        have hclosing : read ([] ++ closing) = other ([] ++ closing) := hcons ')' ['$'] hp
        rw [hnil]
        exact hother.without (hclosing ▸ hread)
    | cons c cs =>
      cases hp : p c with
      | true => exact (hheaded c hp).without hread
      | false =>
        rw [List.cons_append, hcons c _ hp] at hread
        rw [hcons c cs hp]
        exact hother.without hread

/-- A reader that goes on in another way behind a certain character. -/
theorem head (c : Char) (hheaded : IsLocal fun cs => read (c :: cs)) (hother : IsLocal other)
    (hne : ∀ cs, cs.head? ≠ some c → read cs = other cs) : IsLocal read := by
  refine .peek (· == c) (fun d hd => ?_) hother (hne [] (by simp)) fun d cs hd => hne _ ?_
  · obtain rfl : d = c := by simpa using hd
    exact hheaded
  · simpa using hd

/-- Characters with a property are skipped first. -/
theorem dropWhile (p : Char → Bool) (hp : p ')' = false) (h : IsLocal read) :
    IsLocal fun cs => read (cs.dropWhile p) where
  suffix hread := (h.suffix hread).trans (List.dropWhile_suffix p)
  without {cs} _ _ hread := by
    have hclosing : closing.dropWhile p = closing := by simp [closing, hp]
    have hdrop : (cs ++ closing).dropWhile p = cs.dropWhile p ++ closing := by
      rw [List.dropWhile_append]
      split
      next hnil => rw [hclosing, List.isEmpty_iff.mp hnil, List.nil_append]
      next => rfl
    exact h.without (hdrop ▸ hread)

/-- A reader that goes on in another way before a certain character. -/
theorem ifHead (c : Char) (hc : c ≠ ')') (h : IsLocal read) (hother : IsLocal other) :
    IsLocal fun cs => if cs.head? = some c then read cs else other cs where
  suffix hread := by
    split at hread
    · exact h.suffix hread
    · exact hother.suffix hread
  without {cs} _ _ hread := by
    have hhead : (cs ++ closing).head? = some c ↔ cs.head? = some c := by
      cases cs <;> simp [closing, Ne.symm hc]
    simp only [hhead] at hread
    split
    next h' =>
      rw [if_pos h'] at hread
      exact h.without hread
    next h' =>
      rw [if_neg h'] at hread
      exact hother.without hread

/-- The same where something is skipped before. -/
theorem skipHead (f : Flags) (c : Char) {headed : Reader α}
    (hheaded : IsLocal headed) (hother : IsLocal other)
    (heq : ∀ cs t, f.skip cs = c :: t → read cs = headed t)
    (hne : ∀ cs, (f.skip cs).head? ≠ some c → read cs = other (f.skip cs)) : IsLocal read := by
  have hsplit : IsLocal fun cs => if cs.head? = some c then headed cs.tail else other cs :=
    .head c (hheaded.of_eq fun cs => by simp) hother fun cs h => if_neg h
  refine (hsplit.skip f).of_eq fun cs => ?_
  split
  next h =>
    obtain ⟨t, ht⟩ := List.head?_eq_some_iff.mp h
    rw [heq cs t ht, ht, List.tail_cons]
  next h => exact hne cs h

/-- A reader that may take as many steps as its text asks for. -/
theorem fuelled {read : Nat → Reader α} (fuel : Nat → Nat)
    (h : ∀ n, IsLocal (read n)) (hmono : ∀ {m n}, m ≤ n → fuel m ≤ fuel n)
    (henough : ∀ {n cs}, fuel cs.length ≤ n → read n cs = read (fuel cs.length) cs) :
    IsLocal fun cs => read (fuel cs.length) cs where
  suffix hread := (h _).suffix hread
  without {cs} _ _ hread := by
    have hlength : fuel cs.length ≤ fuel (cs ++ closing).length := hmono (by simp)
    exact (henough hlength).symm.trans ((h _).without hread)

/-- A reader that may take a step for each character of its text. -/
theorem perChar {read : Nat → Reader α} (h : ∀ n, IsLocal (read n))
    (hfuel : ∀ {n m cs}, cs.length ≤ n → cs.length ≤ m → read n cs = read m cs) :
    IsLocal fun cs => read cs.length cs :=
  fuelled (fun n => n) h (fun hle => hle) fun hn => hfuel hn (Nat.le_refl _)

/-- The same where something is skipped before. -/
theorem skipPerChar {read : Nat → Reader α} (f : Flags) (h : ∀ n, IsLocal (read n))
    (hfuel : ∀ {n m cs}, cs.length ≤ n → cs.length ≤ m → read n cs = read m cs) :
    IsLocal fun cs => read (cs.length + 1) (f.skip cs) :=
  ((perChar h hfuel).skip f).of_eq fun cs =>
    hfuel (Nat.le_succ_of_le (length_skip_le f cs)) (Nat.le_refl _)

end IsLocal

/-! ### Steps of readers -/

/-- What is read does not depend on the number of steps that may be taken, if there are enough. Each
step reads a character at least. -/
theorem fuel_eq {σ γ : Type} (read : Nat → σ → List Char → γ)
    (hnil : ∀ n m s, read n s [] = read m s [])
    (hcons : ∀ n m s c cs, (∀ s t, t.length ≤ cs.length → read n s t = read m s t) →
      read (n + 1) s (c :: cs) = read (m + 1) s (c :: cs))
    {n m : Nat} {s : σ} {cs : List Char} (hn : cs.length ≤ n) (hm : cs.length ≤ m) :
    read n s cs = read m s cs := by
  induction n generalizing m s cs with
  | zero =>
    obtain rfl := List.length_eq_zero_iff.mp (Nat.le_zero.mp hn)
    exact hnil 0 m s
  | succ n ih =>
    cases cs with
    | nil => exact hnil (n + 1) m s
    | cons c cs =>
      cases m with
      | zero => simp at hm
      | succ m =>
        simp only [List.length_cons, Nat.add_le_add_iff_right] at hn hm
        exact hcons n m s c cs fun s t ht => ih (Nat.le_trans ht hn) (Nat.le_trans ht hm)

end MessageKeys.Regex
