import MessageKeys.Proofs.Key.Feeding

/-!
# Lengths of keys

Each token is laid out with one separator behind it. Together the tokens then span the source
characters that have been fed, and one more for every separator of an interpolated value that its
source is too short for.

## Main definitions

* `MessageKeys.Token.extent`, `MessageKeys.Segments.extent` — the source characters that tokens
  and their separators span.

## Main results

* `MessageKeys.Segments.Feeds.extent_eq` — the characters spanned after a run.
* `MessageKeys.Key.length_parse_eq` — the length of a key.
-/

namespace MessageKeys

namespace Token

/-- The source characters of some tokens, each with a separator behind it. -/
def extent (ts : List Token) : Nat := lengths ts + ts.length

@[simp] theorem extent_nil : extent [] = 0 := rfl

@[simp] theorem extent_cons (t : Token) (ts : List Token) :
    extent (t :: ts) = t.length + 1 + extent ts := by
  simp only [extent, lengths, List.length_cons]
  omega

@[simp] theorem extent_append (ts us : List Token) :
    extent (ts ++ us) = extent ts + extent us := by
  induction ts with
  | nil => simp
  | cons t ts ih => simp only [List.cons_append, extent_cons, ih, Nat.add_assoc]

end Token

namespace Segments

variable {r : Reading} {before fs : List Fragment} {f : Fragment} {s s' : Segments}
  {here? : Option Nat}

/-- The source characters that the tokens and the separators between them span. -/
def extent (s : Segments) : Nat := Token.extent s.closed + s.current.length

theorem extent_tokens (s : Segments) : Token.extent s.tokens = s.extent + 1 := by
  rw [tokens, Token.extent_append]
  rfl

/-! ### What each step spans -/

theorem extent_advance (s : Segments) (c : Char) (width : Nat) (role : Role) :
    (s.advance c width role).extent =
      s.extent + (if role.isCut then 1 else 0) + if role = .text then width else 0 := by
  cases role <;>
    simp [advance, closeNamespace, closeToken, receive, extent, tokens, Token.empty, Token.receive,
      Role.isCut, Nat.add_assoc]

/-- The characters of a value span nothing but their separators. -/
theorem extent_advanceAll_zero (r : Reading) (before ms : List Mark) (s : Segments) :
    (s.advanceAll r 0 before ms).extent = s.extent + r.cutsBehind before ms := by
  induction ms generalizing before s with
  | nil => rfl
  | cons m ms ih =>
    rw [advanceAll, ih, extent_advance, ite_self, Nat.add_zero, Nat.add_assoc]
    rfl

/-- Each character of a literal spans one source character: none of them is swallowed. -/
theorem extent_advanceAll_row (r : Reading) (before : List Mark) (cs : List Char) (s : Segments) :
    (s.advanceAll r 1 before (Mark.row false cs)).extent = s.extent + cs.length := by
  induction cs generalizing before s with
  | nil => rfl
  | cons c cs ih =>
    have hstep : (s.advance c 1 (r.role before ⟨c, false⟩)).extent = s.extent + 1 := by
      rw [extent_advance]
      cases hr : r.role before ⟨c, false⟩ with
      | swallowed => simp [Reading.role_eq_swallowed_iff, Mark.repeats] at hr
      | boundary | separator | text => simp [Role.isCut]
    rw [Mark.row, advanceAll, ih, hstep, List.length_cons, Nat.add_assoc, Nat.add_comm 1]

theorem extent_charge (s : Segments) (index n : Nat) :
    (s.charge index n).extent = s.extent + n := by
  rcases s.charge_cases index n with ⟨older, t, newer, hc, -, he⟩ | ⟨-, he⟩
  · simp only [he, extent, hc, Token.extent_append, Token.extent_cons, Token.charge]
    omega
  · simp only [he, extent, Token.charge, Nat.add_assoc]

/-- A fragment spans its source, and what its separators have too much. -/
theorem extent_feed (h : Reads r (Fragment.allMarks before) s)
    (hh : r.Here (Fragment.allMarks before).length f.marks.length here?) :
    (feed r.key here? f s).extent = s.extent + f.sourceLength + r.excess before f := by
  cases f with
  | literal text =>
    rw [feed_literal h hh, Fragment.marks, extent_advanceAll_row, String.length_toList]
    rfl
  | interpolated source value =>
    rw [feed_interpolated h hh, extent_charge, extent_advanceAll_zero]
    simp only [Fragment.sourceLength, Fragment.source_interpolated, Reading.excess, Reading.cuts]
    omega

/-- A run spans the source of its fragments, and what their separators have too much. -/
theorem Feeds.extent_eq (h : Feeds r before s fs s') (hs : Reads r (Fragment.allMarks before) s) :
    s'.extent = s.extent + Fragment.sourceLengths fs + (r.excesses before fs).sum := by
  induction h with
  | nil before s => rfl
  | @cons before fs f here? s s' here rest ih =>
    have hnext : Reads r (Fragment.allMarks (before ++ [f])) (feed r.key here? f s) := by
      simpa using hs.feed here
    rw [ih hnext, extent_feed hs here, Fragment.sourceLengths_cons, Reading.excesses, List.sum_cons]
    omega

end Segments

namespace Reading

variable {r : Reading} {before fs : List Fragment}

theorem sum_excesses_eq_zero_iff :
    (r.excesses before fs).sum = 0 ↔
      ∀ start source value rest, fs = start ++ .interpolated source value :: rest →
        r.cuts (before ++ start) (.interpolated source value) ≤ source.length := by
  induction fs generalizing before with
  | nil => simp [excesses]
  | cons f fs ih =>
    rw [excesses, List.sum_cons, Nat.add_eq_zero_iff, ih]
    constructor
    · rintro ⟨hf, hfs⟩ start source value rest heq
      cases start with
      | nil =>
        obtain ⟨rfl, rfl⟩ := List.cons.inj heq
        simpa [excess] using Nat.le_of_sub_eq_zero hf
      | cons g start =>
        obtain ⟨rfl, rfl⟩ := List.cons.inj heq
        simpa using hfs start source value rest rfl
    · intro h
      constructor
      · cases f with
        | literal text => rfl
        | interpolated source value =>
          exact Nat.sub_eq_zero_of_le (by simpa using h [] source value fs rfl)
      · intro start source value rest heq
        simpa using h (f :: start) source value rest (by rw [heq]; rfl)

theorem sum_excesses_eq_zero_iff_fits : (r.excesses [] fs).sum = 0 ↔ r.Fits fs := by
  rw [sum_excesses_eq_zero_iff]
  rfl

end Reading

namespace Key

theorem extent_ns (k : Key) :
    Token.extent k.ns?.toList = k.nsLength + if k.hasNamespace then 1 else 0 := by
  cases hns : k.ns? <;> simp [nsLength, hasNamespace, hns]

theorem length_add_one {k : Key} (h : k.path ≠ []) : k.length + 1 = Token.extent k.tokens := by
  have hpath := List.length_pos_iff.mpr h
  rw [tokens, Token.extent_append, extent_ns, length, keyLength, Token.extent]
  omega

theorem length_source_parse (separators : Separators) (fragments : List Fragment) :
    (parse separators fragments).source.length = Fragment.sourceLengths fragments := by
  simp only [parse, String.length_join, List.map_map]
  rfl

/-- **The length of a key.** A key is as long as its source, and longer by what the separators of
interpolated values have too much; so it is as long as its source exactly if no interpolated value
contributes more separators than its source has characters. -/
theorem length_parse_eq (separators : Separators) (fragments : List Fragment) :
    let k := parse separators fragments
    let r := Reading.ofFragments separators fragments
    k.length = k.source.length + (r.excesses [] fragments).sum ∧
    (k.nsLength + (if k.hasNamespace then 1 else 0) + k.keyLength = k.source.length ↔
      ∀ before source value after, fragments = before ++ .interpolated source value :: after →
        r.cuts before (.interpolated source value) ≤ source.length) := by
  intro k r
  obtain ⟨s, hrun, -, hfinish⟩ := exists_feeds_parse separators fragments
  have hextent := hrun.extent_eq (Segments.Reads.start r)
  have hzero : (Segments.start r.boundary?.isNone).extent = 0 := rfl
  have hlength : k.length = k.source.length + (r.excesses [] fragments).sum := by
    have hk : k.length + 1 = Token.extent k.tokens :=
      length_add_one (path_parse_ne_nil separators fragments)
    have hsource : k.source.length = _ := length_source_parse separators fragments
    rw [tokens_eq_of_finish hfinish, Segments.extent_tokens, hextent, hzero, Nat.zero_add] at hk
    rw [hsource]
    exact Nat.succ.inj hk
  refine ⟨hlength, ?_⟩
  change k.length = _ ↔ _
  rw [hlength, Nat.add_eq_left]
  exact Reading.sum_excesses_eq_zero_iff_fits

/-- The value has two separators and only one source character, so the key is longer than its four
source characters. -/
example : (parse {} [.literal "a:b", .interpolated "x" "c.d.e"]).length = 5 := by
  decide +kernel

end Key

end MessageKeys
