import MessageKeys.Key.Span
import MessageKeys.Proofs.Key.Growth
import MessageKeys.Proofs.Key.Segmentation

/-!
# Spans in the source

The spans of a key are laid out from the lengths of its tokens. As long as no interpolated value
has more separators than source characters, the tokens that are under construction span exactly the
source that has been fed, so that the next character of a literal falls where its token ends; and
later fragments do not move the tokens that are closed by then.

## Main definitions

* `MessageKeys.Key.Locates` — the spans of a key around a character of a literal.

## Main results

* `MessageKeys.Key.tokenSpan?_eq_some_iff`, `MessageKeys.Key.tokenSpan?_stop_lt_start` — the spans
  of the path tokens, which are disjoint and in order.
* `MessageKeys.Segments.Feeds.exists_at_literal` — the tokens at a character of a literal.
* `MessageKeys.Key.parse_spans` — the spans of a key point at the characters of its source.
-/

namespace MessageKeys

namespace Span

/-- The positions in a span. -/
instance : Membership Nat Span where
  mem s p := s.start ≤ p ∧ p < s.stop

theorem mem_def {s : Span} {p : Nat} : p ∈ s ↔ s.start ≤ p ∧ p < s.stop := Iff.rfl

end Span

/-! ### The layout of a key -/

theorem Token.extent_le_of_prefix {ts us : List Token} (h : ts <+: us) :
    Token.extent ts ≤ Token.extent us := by
  obtain ⟨rest, rfl⟩ := h
  rw [Token.extent_append]
  exact Nat.le_add_right ..

namespace Key

variable {k : Key} {i j : Nat} {u v : Span}

theorem pathStart_eq_extent (k : Key) : k.pathStart = Token.extent k.ns?.toList := by
  cases hns : k.ns? <;> simp [pathStart, hns]

/-- A path token begins behind the namespace and the path tokens before it. -/
theorem tokenStart_eq_extent (k : Key) (i : Nat) :
    k.tokenStart i = Token.extent (k.ns?.toList ++ k.path.take i) := by
  rw [tokenStart, pathStart_eq_extent, Token.extent_append, Nat.add_assoc]
  rfl

/-- Of two ways to divide the tokens of a key, one at the end of its namespace, the other behind
it, the second divides the path. -/
theorem exists_path_eq_append {older newer : List Token} (h : k.tokens = older ++ newer)
    (hlen : k.ns?.toList.length ≤ older.length) :
    ∃ start, older = k.ns?.toList ++ start ∧ k.path = start ++ newer := by
  obtain ⟨start, rfl⟩ := Token.prefix_of_append_eq h hlen
  rw [tokens, List.append_assoc] at h
  exact ⟨start, rfl, List.append_cancel_left h⟩

/-- The span of a path token begins behind all tokens before it and their separators. -/
theorem tokenSpan?_eq_some_iff :
    k.tokenSpan? i = some u ↔
      ∃ older t newer, k.tokens = older ++ t :: newer ∧ older.length = k.ns?.toList.length + i ∧
        u = ⟨Token.extent older, Token.extent older + t.length⟩ := by
  constructor
  · intro h
    obtain ⟨t, ht, rfl⟩ := Option.map_eq_some_iff.mp h
    obtain ⟨hi, rfl⟩ := List.getElem?_eq_some_iff.mp ht
    refine ⟨k.ns?.toList ++ k.path.take i, k.path[i], k.path.drop (i + 1), ?_, ?_, ?_⟩
    · rw [List.append_assoc, ← List.drop_eq_getElem_cons hi, List.take_append_drop]
      rfl
    · rw [List.length_append, List.length_take, Nat.min_eq_left (Nat.le_of_lt hi)]
    · rw [tokenStart_eq_extent]
  · rintro ⟨older, t, newer, htokens, hlen, rfl⟩
    obtain ⟨start, rfl, hpath⟩ := exists_path_eq_append htokens (by omega)
    obtain rfl : start.length = i := by
      rw [List.length_append] at hlen
      omega
    simp [tokenSpan?, tokenStart_eq_extent, hpath]

/-- The spans of two path tokens are apart, in the order of the tokens. -/
theorem tokenSpan?_stop_lt_start (hu : k.tokenSpan? i = some u) (hv : k.tokenSpan? j = some v)
    (hij : i < j) : u.stop < v.start := by
  obtain ⟨older, t, newer, htokens, hlen, rfl⟩ := tokenSpan?_eq_some_iff.mp hu
  obtain ⟨older', t', newer', htokens', hlen', rfl⟩ := tokenSpan?_eq_some_iff.mp hv
  rw [List.append_cons] at htokens
  have hlen'' : (older ++ [t]).length ≤ older'.length := by
    rw [List.length_append, List.length_singleton]
    omega
  have hle := Token.extent_le_of_prefix
    (Token.prefix_of_append_eq (htokens.symm.trans htokens') hlen'')
  rw [Token.extent_append, Token.extent_cons, Token.extent_nil] at hle
  simp only
  omega

/-- A position lies in the span of one path token at most. -/
theorem eq_of_mem_tokenSpan? {p : Nat} (hu : k.tokenSpan? i = some u)
    (hv : k.tokenSpan? j = some v) (hpu : p ∈ u) (hpv : p ∈ v) : i = j := by
  obtain ⟨hpu, hpu'⟩ := Span.mem_def.mp hpu
  obtain ⟨hpv, hpv'⟩ := Span.mem_def.mp hpv
  rcases Nat.lt_trichotomy i j with hij | hij | hij
  · have := tokenSpan?_stop_lt_start hu hv hij
    omega
  · exact hij
  · have := tokenSpan?_stop_lt_start hv hu hij
    omega

end Key

/-! ### Where a character of a literal falls -/

theorem Reading.Fits.of_append {r : Reading} {fs gs : List Fragment} (h : r.Fits (fs ++ gs)) :
    r.Fits fs := by
  intro before source value after heq
  exact h before source value (after ++ gs) (by rw [heq, List.append_assoc, List.cons_append])

namespace Segments

variable {r : Reading} {s s' : Segments}

theorem advanceAll_append (r : Reading) (width : Nat) (before ms ns : List Mark) (s : Segments) :
    s.advanceAll r width before (ms ++ ns) =
      (s.advanceAll r width before ms).advanceAll r width (before ++ ms) ns := by
  induction ms generalizing before s with
  | nil => rw [List.append_nil]; rfl
  | cons m ms ih =>
    rw [List.cons_append, advanceAll, advanceAll, ih, List.append_assoc, List.singleton_append]

/-- There is a piece for every token. -/
theorem Reads.openIndex_add_one {before : List Mark} (h : Reads r before s) :
    s.openIndex + 1 = (r.pieces before).length := by
  rw [h.pieces_eq, List.length_append, List.length_map]
  rfl

/-- As long as the separators of each value fit into its source, the tokens span the source. -/
theorem Feeds.extent_eq_of_fits {fs : List Fragment} (hfits : r.Fits fs)
    (h : Feeds r [] (start r.boundary?.isNone) fs s) :
    s.extent = Fragment.sourceLengths fs := by
  have hzero : (start r.boundary?.isNone).extent = 0 := rfl
  rw [h.extent_eq (Reads.start r), hzero, Reading.sum_excesses_eq_zero_iff_fits.mpr hfits]
  omega

variable {fragments before after : List Fragment} {text : String} {beginning rest : List Char}
  {c : Char}

/-- Before a character of a literal, the tokens span all source before it; and what the character
makes of them is extended by what follows. -/
theorem Feeds.exists_at_literal (h : Feeds r [] (start r.boundary?.isNone) fragments s')
    (heq : fragments = before ++ .literal text :: after)
    (htext : text.toList = beginning ++ c :: rest) (hfits : r.Fits before) :
    let ms := Fragment.allMarks before ++ Mark.row false beginning
    ∃ s, Reads r ms s ∧ s.extent = Fragment.sourceLengths before + beginning.length ∧
      (s.advance c 1 (r.role ms ⟨c, false⟩)).Extends s' := by
  intro ms
  subst heq
  obtain ⟨s, hbefore, hafter⟩ := h.exists_of_append
  have hreads : Reads r (Fragment.allMarks before) s := hbefore.reads (Reads.start r)
  cases hafter with
  | cons here hrest =>
    have hextends := hrest.extends (by simpa using hreads.feed here)
    rw [feed_literal hreads here, Fragment.marks, htext, Mark.row_false_append, advanceAll_append]
      at hextends
    -- The literal is stopped before the character, which the extension takes up again.
    refine ⟨_, hreads.advanceAll 1 (Mark.row false beginning), ?_, ?_⟩
    · rw [extent_advanceAll_row, hbefore.extent_eq_of_fits hfits]
    · exact (extends_advanceAll ..).trans hextends

/-- Before and behind a value, the tokens span all source before it and behind it. -/
theorem Feeds.exists_around_value {source value : String}
    (h : Feeds r [] (start r.boundary?.isNone) fragments s')
    (heq : fragments = before ++ .interpolated source value :: after)
    (hfits : r.Fits (before ++ [.interpolated source value])) :
    ∃ s₀ s, Reads r (Fragment.allMarks before) s₀ ∧
      Reads r (Fragment.allMarks (before ++ [.interpolated source value])) s ∧
      s₀.extent = Fragment.sourceLengths before ∧
      s.extent = Fragment.sourceLengths before + source.length ∧
      s₀.Extends s ∧ s.Extends s' := by
  rw [List.append_cons] at heq
  subst heq
  obtain ⟨s, hrun, hafter⟩ := h.exists_of_append
  obtain ⟨s₀, hbefore, hvalue⟩ := hrun.exists_of_append
  have hreads := hrun.reads (Reads.start r)
  have hreads₀ := hbefore.reads (Reads.start r)
  refine ⟨s₀, s, hreads₀, hreads, hbefore.extent_eq_of_fits hfits.of_append, ?_,
    hvalue.extends hreads₀, hafter.extends hreads⟩
  rw [hrun.extent_eq_of_fits hfits]
  simp [Fragment.sourceLength]

end Segments

/-! ### The spans around a character -/

namespace Key

/-- The spans of a key around the character `c` of a literal, which stands at `p` in the source
and behind the text `before`. -/
structure Locates (k : Key) (r : Reading) (before : List Mark) (c : Char) (p : Nat) : Prop where
  /-- The namespace ends at the boundary, and the path begins behind it. -/
  boundary : r.boundary? = some before.length →
    k.namespaceSpan? = some ⟨0, p⟩ ∧ k.pathSpan.start = p + 1
  /-- Before the boundary, the character lies in the namespace. -/
  inNamespace : ∀ b, r.boundary? = some b → before.length < b →
    ∃ u, k.namespaceSpan? = some u ∧ p ∈ u
  /-- A key separator behind the boundary stands between two path tokens. -/
  separator : (∀ b, r.boundary? = some b → b < before.length) → c = r.key →
    ∃ i u v, k.tokenSpan? i = some u ∧ u.stop = p ∧ k.tokenSpan? (i + 1) = some v ∧
      v.start = p + 1
  /-- Any other character behind the boundary lies in the path token that received it. -/
  inSegment : (∀ b, r.boundary? = some b → b < before.length) → c ≠ r.key →
    ∃ segments last, (r.pathText before).splitOn r.key = segments ++ [last] ∧
      (∃ t, k.path[segments.length]? = some t ∧ last ++ [c] <+: t.text.toList) ∧
      ∀ i, (∃ u, k.tokenSpan? i = some u ∧ p ∈ u) ↔ i = segments.length

section

variable {k : Key} {r : Reading} {before : List Mark} {c : Char} {s s' : Segments} {t : Token}
  {rest : List Token}

theorem length_nsText? (hns : k.ns?.isSome = r.boundary?.isSome) (ms : List Mark) :
    (r.nsText? ms).toList.length = k.ns?.toList.length := by
  cases hk : k.ns? <;> cases hb : r.boundary? <;> simp_all [Reading.nsText?]

/-- Before the path, the only token is the open one, which is the namespace of the key. -/
theorem ns?_eq_of_not_inPath (hs : Segments.Reads r before s) (hpath : r.inPath before = false)
    (hns : k.ns?.isSome = r.boundary?.isSome) (htokens : k.tokens = s.closed ++ t :: rest) :
    s.closed = [] ∧ k.ns? = some t := by
  have hclosed : s.closed = [] := by
    have hpieces := hs.pieces_eq
    rw [Reading.pieces_of_not_inPath hpath] at hpieces
    obtain ⟨hnil, -⟩ := Reading.eq_of_singleton_eq_append hpieces
    exact List.map_eq_nil_iff.mp hnil
  refine ⟨hclosed, ?_⟩
  cases hb : r.boundary? with
  | none => simp [Reading.inPath, hb] at hpath
  | some b =>
    obtain ⟨t', ht'⟩ := Option.isSome_iff_exists.mp (hns.trans (by rw [hb]; rfl))
    rw [tokens, ht', hclosed] at htokens
    rw [ht', (List.cons.inj htokens).1]

/-- In the path, the closed tokens are the namespace of the key and the segments that are closed. -/
theorem exists_segments_of_inPath (hs : Segments.Reads r before s) (hpath : r.inPath before = true)
    (hns : k.ns?.isSome = r.boundary?.isSome) :
    ∃ segments, (r.pathText before).splitOn r.key = segments ++ [s.current.text.toList] ∧
      s.closed.length = k.ns?.toList.length + segments.length := by
  obtain ⟨segments, hclosed, hsplit⟩ := Reading.exists_pieces_eq_of_inPath hpath hs.pieces_eq
  refine ⟨segments, hsplit, ?_⟩
  have hlen := congrArg List.length hclosed
  rwa [List.length_map, List.length_append, length_nsText? hns] at hlen

/-- The open token ends at a cut: its span ends there, and that of the next token begins behind. -/
theorem tokenSpan?_of_cut {i : Nat} (hlen : s.closed.length = k.ns?.toList.length + i)
    (htokens : k.tokens = s.closed ++ s.current :: t :: rest) :
    ∃ u v, k.tokenSpan? i = some u ∧ u.stop = s.extent ∧ k.tokenSpan? (i + 1) = some v ∧
      v.start = s.extent + 1 := by
  refine ⟨_, _, tokenSpan?_eq_some_iff.mpr ⟨_, _, _, htokens, hlen, rfl⟩, rfl,
    tokenSpan?_eq_some_iff.mpr ⟨s.closed ++ [s.current], t, rest, ?_, ?_, rfl⟩, ?_⟩
  · rw [htokens, List.append_cons]
  · rw [List.length_append, hlen]
    rfl
  · rw [Token.extent_append, Segments.extent, Nat.add_assoc]
    rfl

/-- The next character of the open token lies in its span. -/
theorem mem_of_length_lt (h : s.current.length < t.length) :
    s.extent ∈ (⟨Token.extent s.closed, Token.extent s.closed + t.length⟩ : Span) :=
  ⟨Nat.le_add_right .., Nat.add_lt_add_left h _⟩

/-- The spans around a character follow from the tokens before it, if what the character makes of
them is extended to the tokens of the key. -/
theorem locates_of_extends (hs : Segments.Reads r before s)
    (hextends : (s.advance c 1 (r.role before ⟨c, false⟩)).Extends s')
    (htokens : k.tokens = s'.tokens) (hns : k.ns?.isSome = r.boundary?.isSome) :
    k.Locates r before c s.extent := by
  obtain ⟨t, rest, htail, ht⟩ := hextends
  rw [← htokens] at htail
  refine ⟨fun hb => ?boundary, fun b hb hlt => ?inNamespace, fun hlt hc => ?separator,
    fun hlt hc => ?inSegment⟩
  case boundary =>
    have hpath := Reading.not_inPath_of_boundary hb
    rw [Reading.role_eq_boundary_iff.mpr hb] at htail
    have hsplit : k.tokens = s.closed ++ s.current :: t :: rest := by
      rw [htail]
      exact (List.append_cons ..).symm
    obtain ⟨hclosed, hk⟩ := ns?_eq_of_not_inPath hs hpath hns hsplit
    simp [namespaceSpan?, pathSpan, pathStart, hk, Segments.extent, hclosed]
  case inNamespace =>
    have hpath : r.inPath before = false := by simp [Reading.inPath, hb, Nat.le_of_lt hlt]
    have hne : r.boundary? ≠ some before.length := by
      rw [hb, Ne, Option.some_inj]
      omega
    have hrole : r.role before ⟨c, false⟩ = .text :=
      Reading.role_eq_text_iff.mpr ⟨hne, by simp [hpath]⟩
    rw [hrole] at htail ht
    obtain ⟨hclosed, hk⟩ := ns?_eq_of_not_inPath hs hpath hns htail
    have hmem := mem_of_length_lt (Nat.lt_of_succ_le ht.2)
    refine ⟨_, Option.map_eq_some_iff.mpr ⟨t, hk, rfl⟩, ?_⟩
    simpa [Span.mem_def, hclosed] using hmem
  case separator =>
    have hpath : r.inPath before = true := Reading.inPath_eq_true_iff.mpr hlt
    have hrole : r.role before ⟨c, false⟩ = .separator :=
      Reading.role_eq_separator_iff.mpr ⟨fun hb => Nat.lt_irrefl _ (hlt _ hb), hpath, hc,
        by simp [Mark.repeats]⟩
    rw [hrole] at htail
    have hsplit : k.tokens = s.closed ++ s.current :: t :: rest := by
      rw [htail]
      exact (List.append_cons ..).symm
    obtain ⟨segments, -, hlen⟩ := exists_segments_of_inPath hs hpath hns
    exact ⟨segments.length, tokenSpan?_of_cut hlen hsplit⟩
  case inSegment =>
    have hpath : r.inPath before = true := Reading.inPath_eq_true_iff.mpr hlt
    have hrole : r.role before ⟨c, false⟩ = .text :=
      Reading.role_eq_text_iff.mpr ⟨fun hb => Nat.lt_irrefl _ (hlt _ hb), fun _ => hc⟩
    rw [hrole] at htail ht
    change k.tokens = s.closed ++ t :: rest at htail
    obtain ⟨segments, hsplit, hlen⟩ := exists_segments_of_inPath hs hpath hns
    have hspan := tokenSpan?_eq_some_iff.mpr ⟨_, _, _, htail, hlen, rfl⟩
    have hmem := mem_of_length_lt (Nat.lt_of_succ_le ht.2)
    refine ⟨segments, _, hsplit, ⟨t, ?_, ?_⟩, fun i => ⟨?_, ?_⟩⟩
    · obtain ⟨older, holder, hk⟩ := exists_path_eq_append htail (hlen ▸ Nat.le_add_right ..)
      have hindex : segments.length = older.length := by
        rw [holder, List.length_append] at hlen
        omega
      rw [hk, hindex]
      simp
    · simpa [Segments.advance, Segments.receive, Token.receive] using ht.1
    · rintro ⟨u, hu, hp⟩
      exact eq_of_mem_tokenSpan? hu hspan hp hmem
    · rintro rfl
      exact ⟨_, hspan, hmem⟩

/-- A token that is opened and closed between two states lies between what the tokens span in the
one and in the other. -/
theorem tokenSpan?_of_extends {s₀ : Segments} {j : Nat} (h₀ : s₀.Extends s) (h : s.Extends s')
    (htokens : k.tokens = s'.tokens) (hopened : s₀.openIndex < k.ns?.toList.length + j)
    (hclosed : k.ns?.toList.length + j < s.openIndex) :
    ∃ u, k.tokenSpan? j = some u ∧ s₀.extent ≤ u.start ∧ u.stop ≤ s.extent := by
  obtain ⟨t₀, rest₀, htokens₀, hgrown⟩ := h₀
  obtain ⟨t, rest, htail, -⟩ := h
  have hlt : k.ns?.toList.length + j < s.closed.length := hclosed
  obtain ⟨older, u, newer, hsplit, hlen⟩ : ∃ older u newer,
      s.closed = older ++ u :: newer ∧ older.length = k.ns?.toList.length + j := by
    refine ⟨s.closed.take (k.ns?.toList.length + j), s.closed[k.ns?.toList.length + j],
      s.closed.drop (k.ns?.toList.length + j + 1), ?_, List.length_take_of_le (Nat.le_of_lt hlt)⟩
    rw [← List.drop_eq_getElem_cons hlt, List.take_append_drop]
  have hkey : k.tokens = older ++ u :: (newer ++ t :: rest) := by
    rw [htokens, htail, hsplit, List.append_assoc, List.cons_append]
  refine ⟨_, tokenSpan?_eq_some_iff.mpr ⟨_, _, _, hkey, hlen, rfl⟩, ?_, ?_⟩
  · -- The token that was open in the first state comes before, and it can only have grown.
    have htokens' : (s₀.closed ++ [t₀]) ++ rest₀ = older ++ (u :: newer ++ [s.current]) := by
      rw [← List.append_cons, ← htokens₀, Segments.tokens, hsplit, List.append_assoc]
    have hlen' : (s₀.closed ++ [t₀]).length ≤ older.length := by
      rw [hlen, List.length_append]
      exact hopened
    have hle := Token.extent_le_of_prefix (Token.prefix_of_append_eq htokens' hlen')
    have hlength : s₀.current.length ≤ t₀.length := hgrown.2
    rw [Token.extent_append, Token.extent_cons, Token.extent_nil] at hle
    simp only [Segments.extent]
    omega
  · simp only [Segments.extent, hsplit, Token.extent_append, Token.extent_cons]
    omega

end

/-- The namespace of a key is there exactly if its reading has a boundary. -/
theorem isSome_ns?_parse (separators : Separators) (fragments : List Fragment) :
    (parse separators fragments).ns?.isSome =
      (Reading.ofFragments separators fragments).boundary?.isSome := by
  have h := congrArg Option.isSome (texts_parse separators fragments).1
  simpa [Reading.nsText?] using h

/-- A literal stands in the source as it is. -/
theorem getElem?_source_parse (separators : Separators) (before after : List Fragment)
    {text : String} {start rest : List Char} {c : Char} (htext : text.toList = start ++ c :: rest) :
    (parse separators (before ++ .literal text :: after)).source.toList[
      Fragment.sourceLengths before + start.length]? = some c := by
  have hlen : (String.join (before.map Fragment.source)).toList.length =
      Fragment.sourceLengths before := by
    rw [String.length_toList]
    exact length_source_parse separators before
  have hsource : (parse separators (before ++ .literal text :: after)).source.toList =
      (String.join (before.map Fragment.source)).toList ++
        (start ++ c :: (rest ++ (String.join (after.map Fragment.source)).toList)) := by
    simp [parse, String.join_append, htext]
  rw [hsource, ← hlen, List.getElem?_append_right (Nat.le_add_right ..), Nat.add_sub_cancel_left]
  simp

/-- **The spans of a key point at its source.** Let no interpolated value before some literal have
more separators than source characters. Then the spans of the key are where the characters of the
literal put them: the namespace ends at the boundary and the path begins behind it, a key separator
behind the boundary stands between two path tokens, and any other character lies in the namespace or
in the one path token that received it. If the separators of a value and of those before it fit,
then a path token that is opened and closed by the value lies in its source. -/
theorem parse_spans (separators : Separators) (fragments : List Fragment) :
    let k := parse separators fragments
    let r := Reading.ofFragments separators fragments
    (∀ before text after start c rest,
      fragments = before ++ .literal text :: after → text.toList = start ++ c :: rest →
      r.Fits before →
        let p := Fragment.sourceLengths before + start.length
        k.source.toList[p]? = some c ∧
        k.Locates r (Fragment.allMarks before ++ Mark.row false start) c p) ∧
    ∀ before source value after j,
      fragments = before ++ .interpolated source value :: after →
      r.Fits (before ++ [.interpolated source value]) →
      (r.pieces (Fragment.allMarks before)).length ≤ k.ns?.toList.length + j →
      k.ns?.toList.length + j + 1 <
        (r.pieces (Fragment.allMarks (before ++ [.interpolated source value]))).length →
        ∃ u, k.tokenSpan? j = some u ∧ Fragment.sourceLengths before ≤ u.start ∧
          u.stop ≤ Fragment.sourceLengths before + source.length := by
  intro k r
  obtain ⟨s', hrun, -, hfinish⟩ := exists_feeds_parse separators fragments
  have htokens : k.tokens = s'.tokens := tokens_eq_of_finish hfinish
  have hns : k.ns?.isSome = r.boundary?.isSome := isSome_ns?_parse separators fragments
  refine ⟨?_, ?_⟩
  · intro before text after start c rest heq htext hfits p
    refine ⟨?_, ?_⟩
    · have h := getElem?_source_parse separators before after htext
      rwa [← heq] at h
    · obtain ⟨s, hs, hextent, hextends⟩ := hrun.exists_at_literal heq htext hfits
      have h := locates_of_extends hs hextends htokens hns
      rwa [hextent] at h
  · intro before source value after j heq hfits hopened hclosed
    obtain ⟨s₀, s, hreads₀, hreads, hextent₀, hextent, hvalue, hafter⟩ :=
      hrun.exists_around_value heq hfits
    rw [← hreads₀.openIndex_add_one, Nat.succ_le_iff] at hopened
    rw [← hreads.openIndex_add_one, Nat.add_lt_add_iff_right] at hclosed
    have h := tokenSpan?_of_extends hvalue hafter htokens hopened hclosed
    rwa [hextent₀, hextent] at h

end Key

end MessageKeys
