import MessageKeys.Proofs.Key.Boundary

/-!
# Tokens follow the reading

The tokens under construction are compared with the reading of the text that has been fed. One
step lemma says that a character does to the tokens what its role says; the loops over a literal,
over a value and over all fragments then do what their characters do one after the other. The
lengths of the tokens take no part in this.

## Main definitions

* `MessageKeys.Segments.advance`, `MessageKeys.Segments.advanceAll` — what characters do to the
  tokens, by their roles.
* `MessageKeys.Segments.Reads` — the tokens hold the pieces of the text that has been fed.
* `MessageKeys.Segments.Feeds` — a run over some fragments.

## Main results

* `MessageKeys.Segments.Reads.advance` — a character keeps `Reads`.
* `MessageKeys.Segments.feedLiteral_eq`, `MessageKeys.Segments.feedValue_eq` — the loops are
  `advanceAll`.
* `MessageKeys.Segments.Feeds.reads` — a run keeps `Reads`.
* `MessageKeys.Key.exists_feeds_parse` — a key is read off the last state of a run.
-/

namespace MessageKeys

namespace Reading

/-- A position is that of the boundary among the next `n` characters, if the boundary is there. -/
def Here (r : Reading) (start n : Nat) (here? : Option Nat) : Prop :=
  ∀ q < n, here? = some q ↔ r.boundary? = some (start + q)

/-- A place is that of the boundary in the fragments ahead; there is none if the boundary lies
behind. -/
def Ahead (r : Reading) (start : Nat) (fragments : List Fragment) : Option Boundary → Prop
  | some b => b.LiesIn fragments ∧ r.boundary? = some (start + b.offset fragments)
  | none => ∀ n, r.boundary? = some n → n < start

theorem ahead_ofFragments (separators : Separators) (fragments : List Fragment) :
    (ofFragments separators fragments).Ahead 0 fragments
      (Boundary.find? separators.ns fragments) := by
  cases hb : Boundary.find? separators.ns fragments with
  | none => simp [Ahead, ofFragments, hb]
  | some b => exact ⟨Boundary.liesIn_of_find? hb, by simp [ofFragments, hb]⟩

variable {r : Reading} {start n : Nat} {fs : List Fragment} {f : Fragment}
  {boundary? : Option Boundary} {here? : Option Nat}

theorem Ahead.here (h : r.Ahead start (f :: fs) boundary?) :
    r.Here start f.marks.length (boundary?.bind Boundary.here?) := by
  intro q hq
  match boundary?, h with
  | none, h =>
    have hne : r.boundary? ≠ some (start + q) := fun hb => by have := h _ hb; omega
    simp [hne]
  | some ⟨0, p⟩, ⟨_, hb⟩ => simp [Boundary.here?, hb]
  | some ⟨n + 1, p⟩, ⟨_, hb⟩ =>
    have hne : r.boundary? ≠ some (start + q) := by
      rw [hb, Boundary.offset_succ, Ne, Option.some_inj]
      omega
    simp [Boundary.here?, hne]

theorem Ahead.later (h : r.Ahead start (f :: fs) boundary?) :
    r.Ahead (start + f.marks.length) fs (boundary?.bind Boundary.later?) := by
  match boundary?, h with
  | none, h => exact fun n hn => Nat.lt_add_right _ (h n hn)
  | some ⟨0, p⟩, ⟨⟨g, hg, hp⟩, hb⟩ =>
    intro n hn
    obtain rfl : f = g := by simpa using hg
    rw [hb, Boundary.offset_zero, Option.some_inj] at hn
    rw [Fragment.length_marks, ← hn]
    exact Nat.add_lt_add_left hp start
  | some ⟨n + 1, p⟩, ⟨⟨g, hg, hp⟩, hb⟩ =>
    refine ⟨⟨g, by simpa using hg, hp⟩, ?_⟩
    rw [hb, Boundary.offset_succ, Nat.add_assoc]

theorem Here.boundary?_eq (h : r.Here start (n + 1) (some 0)) : r.boundary? = some start :=
  (h 0 n.succ_pos).mp rfl

theorem Here.boundary?_ne (h : r.Here start (n + 1) here?) (hne : here? ≠ some 0) :
    r.boundary? ≠ some start :=
  fun hb => hne ((h 0 n.succ_pos).mpr hb)

theorem Here.none_of_zero (h : r.Here start (n + 1) (some 0)) : r.Here (start + 1) n none := by
  intro q _
  rw [h.boundary?_eq, Option.some_inj]
  simp only [reduceCtorEq, false_iff]
  omega

theorem Here.pred (h : r.Here start (n + 1) here?) (hne : here? ≠ some 0) :
    r.Here (start + 1) n (here?.map (· - 1)) := by
  intro q hq
  have hstep := h (q + 1) (by omega)
  rw [Nat.add_right_comm, Nat.add_assoc, ← hstep]
  match here?, hne with
  | none, _ => simp
  | some (p + 1), _ => simp

end Reading

namespace Segments

/-! ### A character by its role -/

/-- What a character does to the tokens. -/
def advance (s : Segments) (c : Char) (width : Nat) : Role → Segments
  | .boundary => s.closeNamespace
  | .separator => s.closeToken
  | .swallowed => s
  | .text => s.receive c width

/-- What characters do to the tokens one after the other. -/
def advanceAll (r : Reading) (width : Nat) : (before : List Mark) → List Mark → Segments → Segments
  | _, [], s => s
  | before, m :: ms, s =>
    advanceAll r width (before ++ [m]) ms (s.advance m.char width (r.role before m))

/-- The tokens hold the pieces of the text that has been fed. -/
structure Reads (r : Reading) (before : List Mark) (s : Segments) : Prop where
  inPath : s.inPath = r.inPath before
  hasNamespace : s.hasNamespace = (r.inPath before && r.boundary?.isSome)
  texts : s.tokens.map (fun t => t.text.toList) = r.pieces before

variable {r : Reading} {before : List Mark} {s : Segments} {m : Mark}

theorem Reads.start (r : Reading) : Reads r [] (start r.boundary?.isNone) := by
  cases hb : r.boundary? with
  | none =>
    exact ⟨by simp [Reading.inPath, hb, Segments.start], by simp [hb, Segments.start],
      by simp [Reading.pieces, Reading.inPath, Reading.nsText?, Reading.pathText, hb,
        Segments.start, tokens, Token.empty]⟩
  | some b =>
    exact ⟨by simp [Reading.inPath, hb, Segments.start],
      by simp [Reading.inPath, hb, Segments.start],
      by simp [Reading.pieces, Reading.inPath, hb, Segments.start, tokens, Token.empty]⟩

theorem Reads.pieces_eq (h : Reads r before s) :
    r.pieces before = s.closed.map (fun t => t.text.toList) ++ [s.current.text.toList] := by
  rw [← h.texts, tokens, List.map_append]
  rfl

/-- In the path, the open token is empty exactly if a key separator there closes nothing. -/
theorem Reads.isEmpty_current (h : Reads r before s) (hpath : r.inPath before = true) :
    s.current.text.isEmpty =
      ((r.pathText before).isEmpty || (r.pathText before).getLast? == some r.key) := by
  obtain ⟨segments, -, hs⟩ := Reading.exists_pieces_eq_of_inPath hpath h.pieces_eq
  have hlast := Reading.last_splitOn_eq_nil_iff hs
  rw [String.toList_eq_nil_iff] at hlast
  rw [Bool.eq_iff_iff]
  simpa using hlast

/-- A character keeps the tokens in step with the reading. -/
theorem Reads.advance (h : Reads r before s) (m : Mark) (width : Nat) :
    Reads r (before ++ [m]) (s.advance m.char width (r.role before m)) := by
  have hnext : r.inPath (before ++ [m]) = (r.inPath before || r.boundary? == some before.length) :=
    Reading.inPath_append_singleton
  cases hr : r.role before m with
  | boundary =>
    have hb := Reading.role_eq_boundary_iff.mp hr
    refine ⟨?_, ?_, ?_⟩
    · simp [Segments.advance, closeNamespace, hnext, hb]
    · simp [Segments.advance, closeNamespace, hnext, hb]
    · rw [Reading.pieces_of_isCut (by rw [hr]; rfl), ← h.texts]
      simp [Segments.advance, closeNamespace, closeToken, tokens, Token.empty]
  | separator =>
    obtain ⟨-, hpath, -, -⟩ := Reading.role_eq_separator_iff.mp hr
    rw [hpath, Bool.true_or] at hnext
    refine ⟨?_, ?_, ?_⟩
    · rw [hnext, ← hpath, ← h.inPath]
      rfl
    · rw [hnext, ← hpath, ← h.hasNamespace]
      rfl
    · rw [Reading.pieces_of_isCut (by rw [hr]; rfl), ← h.texts]
      simp [Segments.advance, closeToken, tokens, Token.empty]
  | swallowed =>
    obtain ⟨-, hpath, -⟩ := Reading.role_eq_swallowed_iff.mp hr
    rw [hpath, Bool.true_or] at hnext
    refine ⟨?_, ?_, ?_⟩
    · rw [hnext, ← hpath, ← h.inPath]
      rfl
    · rw [hnext, ← hpath, ← h.hasNamespace]
      rfl
    · rw [Reading.pieces_of_swallowed hr, ← h.texts]
      rfl
  | text =>
    obtain ⟨hb, -⟩ := Reading.role_eq_text_iff.mp hr
    rw [beq_eq_false_iff_ne.mpr hb, Bool.or_false] at hnext
    refine ⟨?_, ?_, ?_⟩
    · rw [hnext, ← h.inPath]
      rfl
    · rw [hnext, ← h.hasNamespace]
      rfl
    · rw [Reading.pieces_of_text hr h.pieces_eq]
      simp [Segments.advance, receive, tokens, Token.receive]

theorem Reads.advanceAll (width : Nat) {before : List Mark} {s : Segments}
    (h : Reads r before s) (ms : List Mark) :
    Reads r (before ++ ms) (advanceAll r width before ms s) := by
  induction ms generalizing before s with
  | nil => simpa [Segments.advanceAll] using h
  | cons m ms ih =>
    rw [← List.singleton_append, ← List.append_assoc]
    exact ih (h.advance m width)

/-- Away from the boundary, the role of a character is settled by the open token. -/
theorem Reads.role_eq (h : Reads r before s) (hb : r.boundary? ≠ some before.length) (c : Char)
    (opens : Bool) :
    r.role before ⟨c, opens⟩ =
      if s.inPath && c == r.key then
        if opens && s.current.text.isEmpty then .swallowed else .separator
      else .text := by
  cases hpath : r.inPath before with
  | false => simp [Reading.role, h.inPath, hb, hpath]
  | true =>
    rw [h.inPath, h.isEmpty_current hpath]
    by_cases hc : c = r.key
    · simp [Reading.role, Mark.repeats, hb, hpath, hc]
    · simp [Reading.role, hb, hpath, hc]

theorem Reads.advance_eq (h : Reads r before s) (hb : r.boundary? ≠ some before.length) (c : Char)
    (opens : Bool) (width : Nat) :
    s.advance c width (r.role before ⟨c, opens⟩) =
      if s.inPath && c == r.key then
        if opens && s.current.text.isEmpty then s else s.closeToken
      else s.receive c width := by
  rw [h.role_eq hb]
  split_ifs <;> rfl

/-! ### Literal text -/

theorem feedLiteral_cons_zero (key c : Char) (cs : List Char) (s : Segments) :
    feedLiteral key (some 0) (c :: cs) s = feedLiteral key none cs s.closeNamespace := rfl

theorem feedLiteral_cons {here? : Option Nat} (hne : here? ≠ some 0) (key c : Char)
    (cs : List Char) (s : Segments) :
    feedLiteral key here? (c :: cs) s =
      feedLiteral key (here?.map (· - 1)) cs
        (if s.inPath && c == key then s.closeToken else s.receive c 1) := by
  match here?, hne with
  | none, _ => rfl
  | some (n + 1), _ => rfl

/-- A literal does what its characters do. -/
theorem feedLiteral_eq {here? : Option Nat} {cs : List Char} (h : Reads r before s)
    (hh : r.Here before.length cs.length here?) :
    feedLiteral r.key here? cs s = advanceAll r 1 before (Mark.row false cs) s := by
  induction cs generalizing before s here? with
  | nil => simp [feedLiteral, advanceAll]
  | cons c cs ih =>
    have hnext := h.advance ⟨c, false⟩ 1
    by_cases h0 : here? = some 0
    · subst h0
      have hr : r.role before ⟨c, false⟩ = .boundary :=
        Reading.role_eq_boundary_iff.mpr hh.boundary?_eq
      rw [hr] at hnext
      rw [feedLiteral_cons_zero, Mark.row, Segments.advanceAll, hr]
      exact ih hnext (by simpa using hh.none_of_zero)
    · have hb := hh.boundary?_ne h0
      rw [feedLiteral_cons h0, Mark.row, Segments.advanceAll]
      rw [h.advance_eq hb, Bool.false_and, if_neg Bool.false_ne_true] at hnext ⊢
      exact ih hnext (by simpa using hh.pred h0)

/-! ### Interpolated values -/

/-- What a character of a value does, by its role. -/
def Feed.advance (feed : Feed) (c : Char) (role : Role) : Feed where
  segments := feed.segments.advance c 0 role
  cuts := feed.cuts + if role.isCut then 1 else 0
  charged? :=
    if role = .text then feed.charged? <|> some feed.segments.openIndex else feed.charged?

/-- What the characters of a value do one after the other. -/
def Feed.advanceAll (r : Reading) : (before : List Mark) → List Mark → Feed → Feed
  | _, [], feed => feed
  | before, m :: ms, feed =>
    advanceAll r (before ++ [m]) ms (feed.advance m.char (r.role before m))

variable {here? : Option Nat} {cs : List Char}

theorem feedValue_cons_zero (key c : Char) (opens : Bool) (cs : List Char) (feed : Feed) :
    feedValue key opens (some 0) (c :: cs) feed =
      feedValue key false none cs
        ⟨feed.segments.closeNamespace, feed.cuts + 1, feed.charged?⟩ := by
  cases opens <;> rfl

theorem feedValue_cons (hne : here? ≠ some 0) (key c : Char) (opens : Bool) (cs : List Char)
    (feed : Feed) :
    feedValue key opens here? (c :: cs) feed =
      feedValue key false (here?.map (· - 1)) cs
        (if feed.segments.inPath && c == key then
          if opens && feed.segments.current.text.isEmpty then feed
          else ⟨feed.segments.closeToken, feed.cuts + 1, feed.charged?⟩
        else ⟨feed.segments.receive c 0, feed.cuts,
          feed.charged? <|> some feed.segments.openIndex⟩) := by
  match here?, hne with
  | none, _ => cases opens <;> rfl
  | some (n + 1), _ => cases opens <;> rfl

theorem Feed.advance_eq {feed : Feed} (h : Reads r before feed.segments)
    (hb : r.boundary? ≠ some before.length) (c : Char) (opens : Bool) :
    feed.advance c (r.role before ⟨c, opens⟩) =
      if feed.segments.inPath && c == r.key then
        if opens && feed.segments.current.text.isEmpty then feed
        else ⟨feed.segments.closeToken, feed.cuts + 1, feed.charged?⟩
      else ⟨feed.segments.receive c 0, feed.cuts,
        feed.charged? <|> some feed.segments.openIndex⟩ := by
  rw [h.role_eq hb]
  split_ifs <;> rfl

/-- A value does what its characters do. -/
theorem feedValue_eq {opens : Bool} {feed : Feed} (h : Reads r before feed.segments)
    (hh : r.Here before.length cs.length here?) :
    feedValue r.key opens here? cs feed = feed.advanceAll r before (Mark.row opens cs) := by
  induction cs generalizing before feed here? opens with
  | nil => simp [feedValue, Feed.advanceAll]
  | cons c cs ih =>
    have hnext : Reads r (before ++ [⟨c, opens⟩])
        (feed.advance c (r.role before ⟨c, opens⟩)).segments := h.advance ⟨c, opens⟩ 0
    by_cases h0 : here? = some 0
    · subst h0
      have hr : r.role before ⟨c, opens⟩ = .boundary :=
        Reading.role_eq_boundary_iff.mpr hh.boundary?_eq
      rw [hr] at hnext
      rw [feedValue_cons_zero, Mark.row, Feed.advanceAll, hr]
      exact ih hnext (by simpa using hh.none_of_zero)
    · have hb := hh.boundary?_ne h0
      rw [feedValue_cons h0, Mark.row, Feed.advanceAll]
      rw [Feed.advance_eq h hb] at hnext ⊢
      exact ih hnext (by simpa using hh.pred h0)

theorem Feed.segments_advanceAll (r : Reading) (before ms : List Mark) (feed : Feed) :
    (feed.advanceAll r before ms).segments = feed.segments.advanceAll r 0 before ms := by
  induction ms generalizing before feed with
  | nil => rfl
  | cons m ms ih => exact ih _ _

theorem Feed.cuts_advanceAll (r : Reading) (before ms : List Mark) (feed : Feed) :
    (feed.advanceAll r before ms).cuts = feed.cuts + r.cutsBehind before ms := by
  induction ms generalizing before feed with
  | nil => rfl
  | cons m ms ih => exact (ih _ _).trans (Nat.add_assoc ..)

/-- A charge goes to one closed token or to the open one. -/
theorem charge_cases (s : Segments) (index n : Nat) :
    (∃ older t newer, s.closed = older ++ t :: newer ∧ index = older.length ∧
      s.charge index n = { s with closed := older ++ t.charge n :: newer }) ∨
    (s.openIndex ≤ index ∧ s.charge index n = { s with current := s.current.charge n }) := by
  by_cases h : index < s.closed.length
  · left
    refine ⟨s.closed.take index, s.closed[index], s.closed.drop (index + 1), ?_, ?_, ?_⟩
    · rw [← List.drop_eq_getElem_cons h, List.take_append_drop]
    · simp [Nat.le_of_lt h]
    · rw [charge, if_pos h, List.modify_eq_take_cons_drop h]
  · exact .inr ⟨Nat.le_of_not_lt h, by rw [charge, if_neg h]⟩

/-- A charge changes no text. -/
theorem Reads.charge (h : Reads r before s) (index n : Nat) :
    Reads r before (s.charge index n) := by
  rcases s.charge_cases index n with ⟨older, t, newer, hc, -, he⟩ | ⟨-, he⟩
  · rw [he]
    refine ⟨h.inPath, h.hasNamespace, ?_⟩
    rw [← h.texts, tokens, tokens, hc]
    simp [Token.charge]
  · rw [he]
    exact ⟨h.inPath, h.hasNamespace, by simp [← h.texts, tokens, Token.charge]⟩

theorem feed_literal {text : String} (h : Reads r before s)
    (hh : r.Here before.length (Fragment.literal text).marks.length here?) :
    feed r.key here? (.literal text) s = advanceAll r 1 before (Fragment.literal text).marks s :=
  feedLiteral_eq h (by simpa only [Fragment.marks, Mark.length_row] using hh)

/-- The value of an interpolated fragment as it is fed. -/
def valueFeed (r : Reading) (before : List Mark) (value : String) (s : Segments) : Feed :=
  Feed.advanceAll r before (Mark.row true value.toList) ⟨s, 0, none⟩

theorem feed_interpolated {source value : String} (h : Reads r before s)
    (hh : r.Here before.length (Fragment.interpolated source value).marks.length here?) :
    feed r.key here? (.interpolated source value) s =
      (advanceAll r 0 before (Fragment.interpolated source value).marks s).charge
        ((valueFeed r before value s).charged?.getD
          (valueFeed r before value s).segments.openIndex)
        (source.length - r.cutsBehind before (Fragment.interpolated source value).marks) := by
  have hv : feedValue r.key true here? value.toList ⟨s, 0, none⟩ = valueFeed r before value s :=
    feedValue_eq h (by simpa only [Fragment.marks, Mark.length_row] using hh)
  have hcuts : (valueFeed r before value s).cuts =
      r.cutsBehind before (Fragment.interpolated source value).marks :=
    (Feed.cuts_advanceAll ..).trans (Nat.zero_add _)
  have hsegments : (valueFeed r before value s).segments =
      advanceAll r 0 before (Fragment.interpolated source value).marks s :=
    Feed.segments_advanceAll ..
  rw [← hsegments, ← hcuts, ← hv]
  rfl

/-- A fragment keeps the tokens in step with the reading. -/
theorem Reads.feed (h : Reads r before s) {f : Fragment}
    (hh : r.Here before.length f.marks.length here?) :
    Reads r (before ++ f.marks) (feed r.key here? f s) := by
  cases f with
  | literal text =>
    rw [feed_literal h hh]
    exact h.advanceAll 1 _
  | interpolated source value =>
    rw [feed_interpolated h hh]
    exact (h.advanceAll 0 _).charge _ _

/-! ### Runs -/

/-- Feeding some fragments behind others leads from one state of the tokens to another. -/
inductive Feeds (r : Reading) : List Fragment → Segments → List Fragment → Segments → Prop
  | nil (before : List Fragment) (s : Segments) : Feeds r before s [] s
  | cons {before fs : List Fragment} {f : Fragment} {here? : Option Nat} {s s' : Segments}
      (here : r.Here (Fragment.allMarks before).length f.marks.length here?)
      (rest : Feeds r (before ++ [f]) (feed r.key here? f s) fs s') :
      Feeds r before s (f :: fs) s'

variable {before fs gs : List Fragment} {s s' : Segments}

theorem feeds_feedAll {boundary? : Option Boundary}
    (h : r.Ahead (Fragment.allMarks before).length fs boundary?) :
    Feeds r before s fs (feedAll r.key boundary? fs s) := by
  induction fs generalizing before s boundary? with
  | nil => exact .nil before s
  | cons f fs ih => exact .cons h.here (ih (by simpa using h.later (f := f)))

/-- A run over several fragments passes through the state between any two of them. -/
theorem Feeds.exists_of_append (h : Feeds r before s (fs ++ gs) s') :
    ∃ t, Feeds r before s fs t ∧ Feeds r (before ++ fs) t gs s' := by
  induction fs generalizing before s with
  | nil => exact ⟨s, .nil before s, by simpa using h⟩
  | cons f fs ih =>
    cases h with
    | cons here rest =>
      obtain ⟨t, hfs, hgs⟩ := ih rest
      exact ⟨t, .cons here hfs, by simpa using hgs⟩

/-- All along a run the tokens are in step with the reading. -/
theorem Feeds.reads (h : Feeds r before s fs s') (hs : Reads r (Fragment.allMarks before) s) :
    Reads r (Fragment.allMarks (before ++ fs)) s' := by
  induction h with
  | nil before s => simpa using hs
  | cons here rest ih =>
    rw [List.append_cons]
    exact ih (by simpa using hs.feed here)

/-! ### The finished tokens -/

theorem finish_tokens (s : Segments) : s.finish.1.toList ++ s.finish.2 = s.tokens := by
  unfold finish
  split
  next ns path _ hc => simp [tokens, hc]
  next => rfl

theorem finish_path_ne_nil (s : Segments) : s.finish.2 ≠ [] := by
  unfold finish
  split <;> simp [tokens]

theorem isSome_finish (s : Segments) :
    s.finish.1.isSome = (s.hasNamespace && !s.closed.isEmpty) := by
  unfold finish
  split
  next hn hc => simp [hn, hc]
  next hne =>
    cases hn : s.hasNamespace with
    | false => rfl
    | true =>
      cases hc : s.closed with
      | nil => rfl
      | cons t ts => exact absurd hc (hne t ts hn)

/-- In the path the namespace is there exactly if the boundary is. -/
theorem Reads.isSome_finish {ms : List Mark} {s : Segments} (h : Reads r ms s)
    (hpath : r.inPath ms = true) : s.finish.1.isSome = r.boundary?.isSome := by
  rw [Segments.isSome_finish, h.hasNamespace, hpath, Bool.true_and]
  cases hb : r.boundary? with
  | none => rfl
  | some b =>
    obtain ⟨segments, last, hs⟩ := Reading.exists_splitOn_eq r.key (r.pathText ms)
    have hlen := congrArg List.length h.pieces_eq
    rw [Reading.pieces_of_inPath hpath, hs] at hlen
    cases hc : s.closed with
    | nil => simp [Reading.nsText?, hb, hc] at hlen
    | cons t ts => rfl

/-- The texts of the finished tokens are those that the reading finds. -/
theorem Reads.texts_finish {ms : List Mark} {s : Segments} (h : Reads r ms s)
    (hpath : r.inPath ms = true) :
    (s.finish.1.map fun t => t.text.toList) = r.nsText? ms ∧
      (s.finish.2.map fun t => t.text.toList) = (r.pathText ms).splitOn r.key := by
  have htexts := h.texts
  have hsome := h.isSome_finish hpath
  rw [← s.finish_tokens, Reading.pieces_of_inPath hpath, List.map_append] at htexts
  -- Both lists begin with a namespace, or neither does, so they are cut at the same place.
  cases hb : r.boundary? with
  | none =>
    have hns : s.finish.1 = none := by simpa [hb] using hsome
    rw [hns] at htexts ⊢
    exact ⟨by simp [Reading.nsText?, hb], by simpa [Reading.nsText?, hb] using htexts⟩
  | some b =>
    obtain ⟨ns, hns⟩ := Option.isSome_iff_exists.mp (hsome.trans (by rw [hb]; rfl))
    rw [hns] at htexts ⊢
    simpa [Reading.nsText?, hb] using htexts

end Segments

namespace Key

/-- The tokens of a key: its namespace, if it has one, and its path. -/
def tokens (k : Key) : List Token := k.ns?.toList ++ k.path

theorem tokens_eq_of_finish {k : Key} {s : Segments} (h : (k.ns?, k.path) = s.finish) :
    k.tokens = s.tokens := by
  rw [← s.finish_tokens, ← h]
  rfl

/-- The path of a key is never empty. -/
theorem path_parse_ne_nil (separators : Separators) (fragments : List Fragment) :
    (parse separators fragments).path ≠ [] :=
  Segments.finish_path_ne_nil _

/-- A key is read off the last state of a run over its fragments. -/
theorem exists_feeds_parse (separators : Separators) (fragments : List Fragment) :
    let k := parse separators fragments
    let r := Reading.ofFragments separators fragments
    ∃ s, Segments.Feeds r [] (Segments.start r.boundary?.isNone) fragments s ∧
      Segments.Reads r (Fragment.allMarks fragments) s ∧ (k.ns?, k.path) = s.finish := by
  intro k r
  have hstart : (Boundary.find? separators.ns fragments).isNone = r.boundary?.isNone := by
    simp [r, Reading.ofFragments]
  have hrun : Segments.Feeds r [] (Segments.start r.boundary?.isNone) fragments _ :=
    Segments.feeds_feedAll (Reading.ahead_ofFragments separators fragments)
  refine ⟨_, hrun, hrun.reads (Segments.Reads.start r), ?_⟩
  rw [← hstart]
  rfl

end Key

end MessageKeys
