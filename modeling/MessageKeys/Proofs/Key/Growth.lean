import MessageKeys.Proofs.Key.Length

/-!
# Tokens grow at the end

A token that is closed before a fragment begins is never changed again. The token that is open
there may receive text and source characters, and new tokens may follow it: the source of an
interpolated value is charged to a token that was open or not yet there when the value began.

## Main definitions

* `MessageKeys.Token.GrowsTo` — a token is another one with more text or source characters.
* `MessageKeys.Segments.Extends` — the closed tokens stay, the open one grows, others follow.

## Main results

* `MessageKeys.Segments.Extends.trans` — steps that extend the tokens compose.
* `MessageKeys.Segments.Feeds.extends` — a run extends the tokens.
-/

namespace MessageKeys

namespace Token

/-- A token with more text or more source characters. -/
def GrowsTo (t u : Token) : Prop := t.text.toList <+: u.text.toList ∧ t.length ≤ u.length

variable {t u v : Token}

theorem GrowsTo.refl (t : Token) : t.GrowsTo t := ⟨List.prefix_rfl, Nat.le_refl _⟩

theorem GrowsTo.trans (h : t.GrowsTo u) (h' : u.GrowsTo v) : t.GrowsTo v :=
  ⟨h.1.trans h'.1, Nat.le_trans h.2 h'.2⟩

theorem growsTo_receive (t : Token) (c : Char) (width : Nat) : t.GrowsTo (t.receive c width) :=
  ⟨by simp [receive], Nat.le_add_right ..⟩

theorem growsTo_charge (t : Token) (n : Nat) : t.GrowsTo (t.charge n) :=
  ⟨List.prefix_rfl, Nat.le_add_right ..⟩

end Token

/-- Of two first parts of some tokens, the shorter one is a part of the longer one. -/
theorem Token.prefix_of_append_eq {ts us vs ws : List Token} (h : ts ++ us = vs ++ ws)
    (hlen : ts.length ≤ vs.length) : ts <+: vs :=
  List.prefix_of_prefix_length_le ⟨us, h⟩ (List.prefix_append vs ws) hlen

namespace Segments

/-- Some tokens as others begin: those that are closed are the same, and the open one grows. -/
def Extends (s s' : Segments) : Prop :=
  ∃ t rest, s'.tokens = s.closed ++ t :: rest ∧ s.current.GrowsTo t

variable {r : Reading} {s s' s'' : Segments}

/-! ### Steps that extend the tokens -/

theorem Extends.refl (s : Segments) : s.Extends s := ⟨s.current, [], rfl, .refl _⟩

theorem Extends.trans (h : s.Extends s') (h' : s'.Extends s'') : s.Extends s'' := by
  obtain ⟨t, rest, htokens, ht⟩ := h
  obtain ⟨u, rest', htokens', hu⟩ := h'
  -- The open token of the middle state is the one that grew, or a later one.
  rcases List.eq_nil_or_concat rest with rfl | ⟨newer, last, rfl⟩
  · obtain ⟨hclosed, rfl⟩ := List.append_singleton_inj.mp htokens
    exact ⟨u, rest', by rw [htokens', hclosed], ht.trans hu⟩
  · rw [List.concat_eq_append, ← List.cons_append, ← List.append_assoc] at htokens
    obtain ⟨hclosed, -⟩ := List.append_singleton_inj.mp htokens
    exact ⟨t, newer ++ u :: rest', by rw [htokens', hclosed]; simp, ht⟩

theorem Extends.openIndex_le (h : s.Extends s') : s.openIndex ≤ s'.openIndex := by
  obtain ⟨t, rest, htokens, -⟩ := h
  have hlen := congrArg List.length htokens
  simp only [tokens, List.length_append, List.length_cons, List.length_nil] at hlen
  simp only [openIndex]
  omega

theorem extends_advance (s : Segments) (c : Char) (width : Nat) (role : Role) :
    s.Extends (s.advance c width role) := by
  cases role with
  | boundary | separator =>
    exact ⟨s.current, [Token.empty], by simp [advance, closeNamespace, closeToken, tokens], .refl _⟩
  | swallowed => exact .refl s
  | text => exact ⟨s.current.receive c width, [], rfl, Token.growsTo_receive ..⟩

theorem extends_advanceAll (r : Reading) (width : Nat) (before ms : List Mark) (s : Segments) :
    s.Extends (s.advanceAll r width before ms) := by
  induction ms generalizing before s with
  | nil => exact .refl s
  | cons m ms ih => exact (s.extends_advance ..).trans (ih _ _)

/-- A charge goes to the token at its index, or to the open one if there is none. -/
theorem tokens_charge (s : Segments) (index n : Nat) :
    ∃ older t newer, s.tokens = older ++ t :: newer ∧ older.length = min index s.openIndex ∧
      (s.charge index n).tokens = older ++ t.charge n :: newer := by
  rcases s.charge_cases index n with ⟨older, t, newer, hc, rfl, he⟩ | ⟨hle, he⟩
  · refine ⟨older, t, newer ++ [s.current], by simp [tokens, hc], ?_, by simp [he, tokens]⟩
    simp [openIndex, hc]
  · exact ⟨s.closed, s.current, [], rfl, (Nat.min_eq_right hle).symm, by rw [he]; rfl⟩

/-- A charge to a token that was not closed extends the tokens. -/
theorem Extends.charge (h : s.Extends s') {index : Nat} (hindex : s.openIndex ≤ index) (n : Nat) :
    s.Extends (s'.charge index n) := by
  have hle := h.openIndex_le
  obtain ⟨t, rest, htokens, ht⟩ := h
  obtain ⟨older, u, newer, htokens', holder, hcharge⟩ := s'.tokens_charge index n
  have hlen : s.closed.length ≤ older.length := by
    rw [holder]
    exact Nat.le_min.mpr ⟨hindex, hle⟩
  obtain ⟨between, rfl⟩ := Token.prefix_of_append_eq (htokens.symm.trans htokens') hlen
  rw [htokens, List.append_assoc] at htokens'
  have htail := List.append_cancel_left htokens'
  cases between with
  | nil =>
    obtain ⟨rfl, rfl⟩ := List.cons.inj htail
    exact ⟨t.charge n, rest, by simpa using hcharge, ht.trans (t.growsTo_charge n)⟩
  | cons t' between =>
    obtain ⟨rfl, rfl⟩ := List.cons.inj htail
    exact ⟨t, between ++ u.charge n :: newer, by simpa using hcharge, ht⟩

/-! ### Where a value is charged -/

/-- A value is charged to no token before a given one. -/
structure Feed.ChargesFrom (n : Nat) (feed : Feed) : Prop where
  openIndex : n ≤ feed.segments.openIndex
  charged : ∀ i, feed.charged? = some i → n ≤ i

theorem Feed.ChargesFrom.advance {n : Nat} {feed : Feed} (h : feed.ChargesFrom n) (c : Char)
    (role : Role) : (feed.advance c role).ChargesFrom n := by
  refine ⟨Nat.le_trans h.openIndex (extends_advance ..).openIndex_le, fun i hi => ?_⟩
  simp only [Feed.advance] at hi
  split_ifs at hi
  · cases hcharged : feed.charged? with
    | none =>
      obtain rfl : feed.segments.openIndex = i := by simpa [hcharged] using hi
      exact h.openIndex
    | some j =>
      obtain rfl : j = i := by simpa [hcharged] using hi
      exact h.charged j hcharged
  · exact h.charged i hi

theorem Feed.ChargesFrom.advanceAll {n : Nat} {feed : Feed} (h : feed.ChargesFrom n)
    (r : Reading) (before ms : List Mark) : (feed.advanceAll r before ms).ChargesFrom n := by
  induction ms generalizing before feed with
  | nil => exact h
  | cons m ms ih => exact ih (h.advance ..) _

/-- A value is charged to the token that was open when it began, or to a later one. -/
theorem openIndex_le_charged (r : Reading) (before : List Mark) (value : String) (s : Segments) :
    s.openIndex ≤ (valueFeed r before value s).charged?.getD
      (valueFeed r before value s).segments.openIndex := by
  have hstart : Feed.ChargesFrom s.openIndex ⟨s, 0, none⟩ := ⟨Nat.le_refl _, by simp⟩
  have hend := hstart.advanceAll r before (Mark.row true value.toList)
  change Feed.ChargesFrom _ (valueFeed r before value s) at hend
  cases hcharged : (valueFeed r before value s).charged? with
  | none => exact hend.openIndex
  | some i => exact hend.charged i hcharged

/-! ### Runs -/

/-- A fragment extends the tokens. -/
theorem Reads.extends_feed {before : List Mark} {f : Fragment} {here? : Option Nat}
    (h : Reads r before s) (hh : r.Here before.length f.marks.length here?) :
    s.Extends (Segments.feed r.key here? f s) := by
  cases f with
  | literal text =>
    rw [feed_literal h hh]
    exact extends_advanceAll ..
  | interpolated source value =>
    rw [feed_interpolated h hh]
    exact (extends_advanceAll ..).charge (openIndex_le_charged ..) _

/-- A run extends the tokens. -/
theorem Feeds.extends {before fs : List Fragment} (h : Feeds r before s fs s')
    (hs : Reads r (Fragment.allMarks before) s) : s.Extends s' := by
  induction h with
  | nil before s => exact .refl s
  | cons here rest ih =>
    exact (hs.extends_feed here).trans (ih (by simpa using hs.feed here))

end Segments

end MessageKeys
