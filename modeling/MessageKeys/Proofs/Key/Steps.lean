import MessageKeys.Proofs.Key.Row

/-!
# Steps of the parser

The parser feeds one character after the other, and charges the source of an interpolated value when
all of its characters are fed. A *moment* is where it stands between two steps: the tokens, what of
the fragment at hand is still to be fed, and the fragments behind it. What holds at every moment is
shown for one step, and then for a run of any length. Every run can be continued until nothing is
left, and the tokens are then those of the key.

## Main definitions

* `MessageKeys.Segments.charRole` — what the next character is, as told by the tokens.
* `MessageKeys.Pending` — the boundary is still to come exactly before the path.
* `MessageKeys.Moment` — where the parser stands.
* `MessageKeys.Moment.Step`, `MessageKeys.Moment.Runs` — one step, and any number of them, with what
  they do to the row of tokens.
* `MessageKeys.Moment.result` — the tokens when nothing is left to be fed.
* `MessageKeys.Moment.IsSound` — what holds at every moment.

## Main results

* `MessageKeys.Moment.Step.result_eq` — a step leads to the same tokens in the end.
* `MessageKeys.Moment.exists_step` — the parser is never stuck.
* `MessageKeys.Moment.Step.isSound` — a step keeps what holds at every moment.
* `MessageKeys.Moment.Step.foldlM_act?` — what a step does to the row of tokens does not fail.
* `MessageKeys.Moment.Step.countP_closesNamespace` — the namespace is closed where the path begins.
* `MessageKeys.Key.parse_steps` — the run that spells a key.
-/

namespace MessageKeys

/-! ### The next character -/

/-- The place of the boundary behind one more character. -/
def Boundary.past : Option Nat → Option Nat
  | some (n + 1) => some n
  | _ => none

theorem Boundary.past_eq {here? : Option Nat} (hne : here? ≠ some 0) :
    past here? = here?.map (· - 1) := by
  match here?, hne with
  | none, _ => rfl
  | some (n + 1), _ => rfl

namespace Segments

/-- What the next character is. The boundary is here if it is at zero; a separator that opens a
value is swallowed if the open token is empty. -/
def charRole (key : Char) (opens : Bool) (here? : Option Nat) (s : Segments) (c : Char) : Role :=
  if here? = some 0 then .boundary
  else if s.inPath && c == key then
    if opens && s.current.text.isEmpty then .swallowed else .separator
  else .text

variable {key c : Char} {opens : Bool} {here? : Option Nat} {s : Segments}

theorem charRole_eq_boundary_iff : s.charRole key opens here? c = .boundary ↔ here? = some 0 := by
  unfold charRole
  split_ifs <;> simp_all

theorem inPath_of_charRole_eq_separator (h : s.charRole key opens here? c = .separator) :
    s.inPath = true := by
  unfold charRole at h
  split_ifs at h
  simp_all

theorem ne_of_charRole_eq_text (h : s.charRole key opens here? c = .text)
    (hpath : s.inPath = true) :
    c ≠ key := by
  unfold charRole at h
  split_ifs at h
  simp_all

theorem inPath_advance (s : Segments) (c : Char) (width : Nat) (role : Role) :
    (s.advance c width role).inPath = (s.inPath || decide (role = .boundary)) := by
  cases role <;> simp [advance, closeNamespace, closeToken, receive]

/-- A literal is fed by its characters. -/
theorem feedLiteral_cons_eq (key : Char) (here? : Option Nat) (c : Char) (cs : List Char)
    (s : Segments) :
    feedLiteral key here? (c :: cs) s =
      feedLiteral key (Boundary.past here?) cs (s.advance c 1 (s.charRole key false here? c)) := by
  by_cases h0 : here? = some 0
  · subst h0
    rfl
  · rw [feedLiteral_cons h0, Boundary.past_eq h0, charRole, if_neg h0, Bool.false_and,
      if_neg Bool.false_ne_true]
    split_ifs <;> rfl

/-- A value is fed by its characters. -/
theorem feedValue_cons_eq (key : Char) (opens : Bool) (here? : Option Nat) (c : Char)
    (cs : List Char) (feed : Feed) :
    feedValue key opens here? (c :: cs) feed =
      feedValue key false (Boundary.past here?) cs
        (feed.advance c (feed.segments.charRole key opens here? c)) := by
  by_cases h0 : here? = some 0
  · subst h0
    exact feedValue_cons_zero ..
  · rw [feedValue_cons h0, Boundary.past_eq h0, charRole, if_neg h0]
    split_ifs <;> rfl

/-- The index of the token that a value is charged to if it ends here. -/
def Feed.index (feed : Feed) : Nat := feed.charged?.getD feed.segments.openIndex

/-- The tokens when a value of a given source has ended. -/
def Feed.finish (feed : Feed) (sourceLength : Nat) : Segments :=
  feed.segments.charge feed.index (sourceLength - feed.cuts)

/-- A character only moves the index to a later token, and not behind the open one. -/
theorem Feed.index_advance {feed : Feed} (h : feed.index ≤ feed.segments.openIndex) (c : Char)
    (role : Role) :
    feed.index ≤ (feed.advance c role).index ∧
      (feed.advance c role).index ≤ (feed.advance c role).segments.openIndex := by
  have hopen : feed.segments.openIndex ≤ (feed.advance c role).segments.openIndex :=
    (extends_advance ..).openIndex_le
  cases hcharged : feed.charged? with
  | some i =>
    have hindex : (feed.advance c role).index = feed.index := by
      simp [index, advance, hcharged]
    exact ⟨hindex.ge, hindex ▸ h.trans hopen⟩
  | none =>
    by_cases hrole : role = .text
    · subst hrole
      simp [index, advance, hcharged, Segments.advance, receive, openIndex]
    · have hindex : (feed.advance c role).index = (feed.advance c role).segments.openIndex := by
        simp [index, advance, hcharged, hrole]
      refine ⟨?_, hindex.le⟩
      rw [hindex]
      simpa [index, hcharged] using hopen

end Segments

/-! ### The boundary ahead -/

/-- The boundary is still to come exactly before the path, and then at one place: at one of the
characters `cs` of the fragment at hand, or in one of the fragments behind it. -/
structure Pending (inPath : Bool) (here? : Option Nat) (cs : List Char) (later? : Option Boundary)
    (rest : List Fragment) : Prop where
  inPath_eq : inPath = !(here?.isSome || later?.isSome)
  here : ∀ p, here? = some p → p < cs.length ∧ later? = none
  later : ∀ b, later? = some b → b.LiesIn rest

namespace Pending

variable {inPath opens : Bool} {here? : Option Nat} {key c : Char} {cs : List Char}
  {later? : Option Boundary} {f : Fragment} {rest : List Fragment} {s : Segments} {width : Nat}

/-- The boundary of all fragments is pending before the first. -/
theorem start (separators : Separators) (fragments : List Fragment) :
    Pending (Boundary.find? separators.ns fragments).isNone none []
      (Boundary.find? separators.ns fragments) fragments where
  inPath_eq := by simp
  here := by simp
  later _ h := Boundary.liesIn_of_find? h

/-- At the beginning of a fragment the boundary is in this fragment or behind it. -/
theorem enter (h : Pending inPath none [] later? (f :: rest)) :
    Pending inPath (later?.bind Boundary.here?) f.resolved.toList (later?.bind Boundary.later?)
      rest := by
  obtain ⟨hpath, -, hlater⟩ := h
  match later?, hlater with
  | none, _ => exact ⟨hpath, by simp, by simp⟩
  | some ⟨0, p⟩, hlater =>
    obtain ⟨g, hg, hp⟩ := hlater _ rfl
    obtain rfl : f = g := by simpa using hg
    rw [← String.length_toList] at hp
    refine ⟨hpath, fun q hq => ⟨?_, rfl⟩, by simp [Boundary.later?]⟩
    obtain rfl : p = q := by simpa [Boundary.here?] using hq
    exact hp
  | some ⟨n + 1, p⟩, hlater =>
    obtain ⟨g, hg, hp⟩ := hlater _ rfl
    refine ⟨hpath, by simp [Boundary.here?], fun b hb => ?_⟩
    obtain rfl : ⟨n, p⟩ = b := by simpa [Boundary.later?] using hb
    exact ⟨g, by simpa using hg, hp⟩

/-- At the end of a fragment the boundary is not there. -/
theorem leave (h : Pending inPath here? [] later? rest) : Pending inPath none [] later? rest := by
  obtain ⟨hpath, hhere, hlater⟩ := h
  match here?, hhere with
  | none, _ => exact ⟨hpath, by simp, hlater⟩
  | some p, hhere => exact absurd (hhere p rfl).1 (Nat.not_lt_zero p)

/-- Behind all fragments the path has begun. -/
theorem inPath_of_nil (h : Pending inPath none [] later? []) : inPath = true ∧ later? = none := by
  have hnone : later? = none := by
    refine Option.eq_none_iff_forall_ne_some.mpr fun b hb => ?_
    obtain ⟨f, hf, -⟩ := h.later b hb
    simp at hf
  exact ⟨by simpa [hnone] using h.inPath_eq, hnone⟩

/-- The path has not begun before the boundary. -/
theorem inPath_of_charRole (h : Pending s.inPath here? (c :: cs) later? rest)
    (hrole : s.charRole key opens here? c = .boundary) : s.inPath = false := by
  rw [Segments.charRole_eq_boundary_iff] at hrole
  subst hrole
  exact h.inPath_eq

/-- A character leaves the boundary ahead, or is the boundary. -/
theorem advance (h : Pending s.inPath here? (c :: cs) later? rest) (width : Nat) :
    Pending (s.advance c width (s.charRole key opens here? c)).inPath (Boundary.past here?) cs
      later? rest := by
  obtain ⟨hpath, hhere, hlater⟩ := h
  have hrole : s.charRole key opens here? c = .boundary ↔ here? = some 0 :=
    Segments.charRole_eq_boundary_iff
  rw [Segments.inPath_advance]
  match here?, hhere, hrole with
  | none, _, hrole =>
    exact ⟨by simpa [hrole, Boundary.past] using hpath, by simp [Boundary.past], hlater⟩
  | some 0, hhere, hrole =>
    obtain ⟨-, hnone⟩ := hhere 0 rfl
    exact ⟨by simp [hrole, hnone, Boundary.past], by simp [Boundary.past], hlater⟩
  | some (n + 1), hhere, hrole =>
    obtain ⟨hn, hnone⟩ := hhere (n + 1) rfl
    refine ⟨by simpa [hrole, Boundary.past] using hpath, fun p hp => ?_, hlater⟩
    obtain rfl : n = p := by simpa [Boundary.past] using hp
    exact ⟨Nat.lt_of_succ_lt_succ hn, hnone⟩

/-- A character keeps the row of tokens sound. -/
theorem isSound_advance (h : Pending s.inPath here? (c :: cs) later? rest)
    (hs : s.row.IsSound key) (width : Nat) :
    (s.advance c width (s.charRole key opens here? c)).row.IsSound key :=
  hs.advance width h.inPath_of_charRole Segments.inPath_of_charRole_eq_separator
    Segments.ne_of_charRole_eq_text

/-- The namespace is closed exactly where the path begins. -/
theorem count_advance (h : Pending s.inPath here? (c :: cs) later? rest) (width : Nat) :
    let role := s.charRole key opens here? c
    [TokenRow.Act.read c width role].countP TokenRow.Act.closesNamespace +
      (!(s.advance c width role).inPath).toNat = (!s.inPath).toNat := by
  intro role
  rw [Segments.inPath_advance]
  by_cases hrole : role = .boundary
  · simp [hrole, TokenRow.Act.closesNamespace, h.inPath_of_charRole hrole]
  · simp [hrole, TokenRow.Act.closesNamespace]

end Pending

/-! ### Moments -/

/-- Where the parser stands. In a fragment, `first` holds the tokens with which it began. -/
inductive Moment where
  /-- Between two fragments, with the place of the boundary in those that follow. -/
  | between (s : Segments) (later? : Option Boundary) (rest : List Fragment)
  /-- In a literal, before the characters `cs`. -/
  | literal (first s : Segments) (here? : Option Nat) (cs : List Char) (later? : Option Boundary)
      (rest : List Fragment)
  /-- In an interpolated value, before the characters `cs`. -/
  | value (first : Segments) (sourceLength : Nat) (feed : Segments.Feed) (opens : Bool)
      (here? : Option Nat) (cs : List Char) (later? : Option Boundary) (rest : List Fragment)
  /-- At the end of a fragment. -/
  | fed (first s : Segments) (later? : Option Boundary) (rest : List Fragment)

namespace Moment

open Segments (feedLiteral feedValue feedAll)
open TokenRow (Act)

/-- The tokens. -/
def segments : Moment → Segments
  | between s _ _ => s
  | literal _ s _ _ _ _ => s
  | value _ _ feed _ _ _ _ _ => feed.segments
  | fed _ s _ _ => s

/-- The row of tokens. -/
def row (m : Moment) : TokenRow := m.segments.row

/-- The tokens with which the fragment at hand began. -/
def first : Moment → Segments
  | between s _ _ => s
  | literal first _ _ _ _ _ => first
  | value first _ _ _ _ _ _ _ => first
  | fed first _ _ _ => first

/-- The index of the token that the value at hand is charged to if it ends here. -/
def index? : Moment → Option Nat
  | value _ _ feed _ _ _ _ _ => some feed.index
  | _ => none

/-- The place of the boundary in the fragment at hand. -/
def here? : Moment → Option Nat
  | literal _ _ here? _ _ _ => here?
  | value _ _ _ _ here? _ _ _ => here?
  | _ => none

/-- The characters of the fragment at hand that are still to be fed. -/
def chars : Moment → List Char
  | literal _ _ _ cs _ _ => cs
  | value _ _ _ _ _ cs _ _ => cs
  | _ => []

/-- The place of the boundary in the fragments behind. -/
def later? : Moment → Option Boundary
  | between _ later? _ => later?
  | literal _ _ _ _ later? _ => later?
  | value _ _ _ _ _ _ later? _ => later?
  | fed _ _ later? _ => later?

/-- The fragments behind. -/
def rest : Moment → List Fragment
  | between _ _ rest => rest
  | literal _ _ _ _ _ rest => rest
  | value _ _ _ _ _ _ _ rest => rest
  | fed _ _ _ rest => rest

/-- One step of the parser, and what it does to the row of tokens. -/
inductive Step (key : Char) : Moment → List Act → Moment → Prop
  | beginLiteral (s : Segments) (boundary? : Option Boundary) (text : String)
      (rest : List Fragment) :
      Step key (between s boundary? (.literal text :: rest)) []
        (literal s s (boundary?.bind Boundary.here?) text.toList (boundary?.bind Boundary.later?)
          rest)
  | beginValue (s : Segments) (boundary? : Option Boundary) (source text : String)
      (rest : List Fragment) :
      Step key (between s boundary? (.interpolated source text :: rest)) []
        (value s source.length ⟨s, 0, none⟩ true (boundary?.bind Boundary.here?) text.toList
          (boundary?.bind Boundary.later?) rest)
  | literalChar (first s : Segments) (here? : Option Nat) (c : Char) (cs : List Char)
      (later? : Option Boundary) (rest : List Fragment) :
      Step key (literal first s here? (c :: cs) later? rest)
        [.read c 1 (s.charRole key false here? c)]
        (literal first (s.advance c 1 (s.charRole key false here? c)) (Boundary.past here?) cs
          later? rest)
  | valueChar (first : Segments) (sourceLength : Nat) (feed : Segments.Feed) (opens : Bool)
      (here? : Option Nat) (c : Char) (cs : List Char) (later? : Option Boundary)
      (rest : List Fragment) :
      Step key (value first sourceLength feed opens here? (c :: cs) later? rest)
        [.read c 0 (feed.segments.charRole key opens here? c)]
        (value first sourceLength (feed.advance c (feed.segments.charRole key opens here? c)) false
          (Boundary.past here?) cs later? rest)
  | endLiteral (first s : Segments) (here? : Option Nat) (later? : Option Boundary)
      (rest : List Fragment) :
      Step key (literal first s here? [] later? rest) [] (fed first s later? rest)
  | endValue (first : Segments) (sourceLength : Nat) (feed : Segments.Feed) (opens : Bool)
      (here? : Option Nat) (later? : Option Boundary) (rest : List Fragment) :
      Step key (value first sourceLength feed opens here? [] later? rest)
        [.charge feed.index (sourceLength - feed.cuts)]
        (fed first (feed.finish sourceLength) later? rest)
  | leave (first s : Segments) (later? : Option Boundary) (rest : List Fragment) :
      Step key (fed first s later? rest) [] (between s later? rest)

/-- A run of the parser, and all that it does to the row of tokens. -/
inductive Runs (key : Char) : Moment → List Act → Moment → Prop
  | refl (m : Moment) : Runs key m [] m
  | step {m m' m'' : Moment} {acts acts' : List Act} (first : Step key m acts m')
      (rest : Runs key m' acts' m'') : Runs key m (acts ++ acts') m''

variable {key : Char} {m m' m'' : Moment} {acts acts' : List Act}

theorem Runs.trans (h : Runs key m acts m') (h' : Runs key m' acts' m'') :
    Runs key m (acts ++ acts') m'' := by
  induction h with
  | refl m => exact h'
  | step first rest ih =>
    rw [List.append_assoc]
    exact .step first (ih h')

/-! ### Where a run leads -/

/-- The tokens when nothing is left to be fed. -/
def result (key : Char) : Moment → Segments
  | between s later? rest => feedAll key later? rest s
  | literal _ s here? cs later? rest => feedAll key later? rest (feedLiteral key here? cs s)
  | value _ sourceLength feed opens here? cs later? rest =>
    feedAll key later? rest ((feedValue key opens here? cs feed).finish sourceLength)
  | fed _ s later? rest => feedAll key later? rest s

/-- A step leads to the same tokens in the end. -/
theorem Step.result_eq (h : Step key m acts m') : m'.result key = m.result key := by
  cases h with
  | beginLiteral | beginValue | endLiteral | endValue | leave => rfl
  | literalChar => rw [result, result, Segments.feedLiteral_cons_eq]
  | valueChar => rw [result, result, Segments.feedValue_cons_eq]

/-- The number of steps that some fragments take: one for each character, and three for each
fragment. -/
def stepsOf (rest : List Fragment) : Nat := (rest.map fun f => f.resolved.toList.length + 3).sum

/-- The number of steps that are left. -/
def stepsLeft : Moment → Nat
  | between _ _ rest => stepsOf rest
  | literal _ _ _ cs _ rest => cs.length + 2 + stepsOf rest
  | value _ _ _ _ _ cs _ rest => cs.length + 2 + stepsOf rest
  | fed _ _ _ rest => stepsOf rest + 1

theorem Step.stepsLeft_lt (h : Step key m acts m') : m'.stepsLeft < m.stepsLeft := by
  cases h <;> simp [stepsLeft, stepsOf] <;> omega

/-- The parser is never stuck: if there is no step, then nothing is left to be fed. -/
theorem exists_step (key : Char) (m : Moment) :
    (∃ later?, m = between (m.result key) later? []) ∨ ∃ acts m', Step key m acts m' := by
  cases m with
  | between s later? rest =>
    cases rest with
    | nil => exact .inl ⟨later?, rfl⟩
    | cons f rest =>
      cases f with
      | literal text => exact .inr ⟨_, _, .beginLiteral ..⟩
      | interpolated source text => exact .inr ⟨_, _, .beginValue ..⟩
  | literal first s here? cs later? rest =>
    cases cs with
    | nil => exact .inr ⟨_, _, .endLiteral ..⟩
    | cons c cs => exact .inr ⟨_, _, .literalChar ..⟩
  | value first sourceLength feed opens here? cs later? rest =>
    cases cs with
    | nil => exact .inr ⟨_, _, .endValue ..⟩
    | cons c cs => exact .inr ⟨_, _, .valueChar ..⟩
  | fed first s later? rest => exact .inr ⟨_, _, .leave ..⟩

/-- From every moment a run leads to the end. -/
theorem exists_runs (key : Char) (m : Moment) :
    ∃ acts later?, Runs key m acts (between (m.result key) later? []) := by
  rcases exists_step key m with ⟨later?, hm⟩ | ⟨acts, m', hstep⟩
  · exact ⟨[], later?, by rw [← hm]; exact .refl m⟩
  · have hlt := hstep.stepsLeft_lt
    obtain ⟨acts', later?, hrest⟩ := exists_runs key m'
    rw [hstep.result_eq] at hrest
    exact ⟨acts ++ acts', later?, .step hstep hrest⟩
termination_by m.stepsLeft

/-! ### What holds at every moment -/

/-- What holds at every moment. -/
structure IsSound (key : Char) (m : Moment) : Prop where
  row : m.row.IsSound key
  /-- The boundary is still to come exactly before the path, and at one place. -/
  pending : Pending m.row.inPath m.here? m.chars m.later? m.rest
  extends_first : m.first.Extends m.segments
  /-- A value is charged to a token that was open or not yet there when it began, and is there. -/
  index : ∀ index, m.index? = some index →
    m.first.openIndex ≤ index ∧ index < m.row.tokens.length

/-- A step keeps what holds at every moment. -/
theorem Step.isSound (h : Step key m acts m') (hm : m.IsSound key) : m'.IsSound key := by
  obtain ⟨hrow, hpending, hextends, hindex⟩ := hm
  cases h with
  | beginLiteral s boundary? text rest =>
    exact ⟨hrow, hpending.enter, .refl s, by simp [index?]⟩
  | beginValue s boundary? source text rest =>
    refine ⟨hrow, hpending.enter, .refl s, fun index h => ?_⟩
    obtain rfl : s.openIndex = index := Option.some.inj h
    exact ⟨Nat.le_refl _, Segments.lt_length_tokens_iff.mpr (Nat.le_refl _)⟩
  | literalChar first s here? c cs later? rest =>
    exact ⟨hpending.isSound_advance hrow 1, hpending.advance 1,
      hextends.trans (s.extends_advance ..), by simp [index?]⟩
  | valueChar first sourceLength feed opens here? c cs later? rest =>
    refine ⟨hpending.isSound_advance hrow 0, hpending.advance 0,
      hextends.trans (feed.segments.extends_advance ..), fun index h => ?_⟩
    obtain ⟨hfirst, hlt⟩ := hindex _ rfl
    obtain ⟨hle, hopen⟩ := Segments.Feed.index_advance (Segments.lt_length_tokens_iff.mp hlt) c
      (feed.segments.charRole key opens here? c)
    obtain rfl := Option.some.inj h
    exact ⟨hfirst.trans hle, Segments.lt_length_tokens_iff.mpr hopen⟩
  | endLiteral first s here? later? rest =>
    exact ⟨hrow, hpending.leave, hextends, by simp [index?]⟩
  | endValue first sourceLength feed opens here? later? rest =>
    refine ⟨hrow.charge .., ?_, hextends.charge (hindex _ rfl).1 _, by simp [index?]⟩
    have hpath : (feed.finish sourceLength).inPath = feed.segments.inPath :=
      feed.segments.inPath_charge ..
    change Pending (feed.finish sourceLength).inPath none [] later? rest
    rw [hpath]
    exact hpending.leave
  | leave first s later? rest => exact ⟨hrow, hpending, .refl s, by simp [index?]⟩

/-- What a step does to the row of tokens does not fail. -/
theorem Step.foldlM_act? (h : Step key m acts m') (hm : m.IsSound key) :
    acts.foldlM TokenRow.act? m.row = some m'.row := by
  cases h with
  | beginLiteral | beginValue | endLiteral | leave => rfl
  | literalChar | valueChar =>
    rw [List.foldlM_cons, row, segments, Segments.act?_read]
    rfl
  | endValue first sourceLength feed opens here? later? rest =>
    have hlt : feed.index < feed.segments.tokens.length := (hm.index _ rfl).2
    rw [List.foldlM_cons, row, segments, Segments.act?_charge hlt]
    rfl

/-- The namespace is closed exactly where the path begins. -/
theorem Step.countP_closesNamespace (h : Step key m acts m') (hm : m.IsSound key) :
    acts.countP Act.closesNamespace + (!m'.row.inPath).toNat = (!m.row.inPath).toNat := by
  cases h with
  | beginLiteral | beginValue | endLiteral | leave => exact Nat.zero_add _
  | literalChar => exact hm.pending.count_advance 1
  | valueChar => exact hm.pending.count_advance 0
  | endValue first sourceLength feed opens here? later? rest =>
    have hpath : (feed.finish sourceLength).inPath = feed.segments.inPath :=
      feed.segments.inPath_charge ..
    change 0 + (!(feed.finish sourceLength).inPath).toNat = _
    rw [hpath, Nat.zero_add]
    rfl

/-! ### Runs -/

theorem Runs.isSound (h : Runs key m acts m') (hm : m.IsSound key) : m'.IsSound key := by
  induction h with
  | refl m => exact hm
  | step first rest ih => exact ih (first.isSound hm)

theorem Runs.result_eq (h : Runs key m acts m') : m'.result key = m.result key := by
  induction h with
  | refl m => rfl
  | step first rest ih => exact ih.trans first.result_eq

theorem Runs.foldlM_act? (h : Runs key m acts m') (hm : m.IsSound key) :
    acts.foldlM TokenRow.act? m.row = some m'.row := by
  induction h with
  | refl m => rfl
  | step first rest ih =>
    rw [List.foldlM_append, first.foldlM_act? hm]
    exact ih (first.isSound hm)

theorem Runs.countP_closesNamespace (h : Runs key m acts m') (hm : m.IsSound key) :
    acts.countP Act.closesNamespace + (!m'.row.inPath).toNat = (!m.row.inPath).toNat := by
  induction h with
  | refl m => exact Nat.zero_add _
  | step first rest ih =>
    rw [List.countP_append, Nat.add_assoc, ih (first.isSound hm), first.countP_closesNamespace hm]

end Moment

namespace Key

/-- Before the first fragment. -/
def firstMoment (separators : Separators) (fragments : List Fragment) : Moment :=
  .between (Segments.start (Boundary.find? separators.ns fragments).isNone)
    (Boundary.find? separators.ns fragments) fragments

theorem isSound_firstMoment (separators : Separators) (fragments : List Fragment) :
    (firstMoment separators fragments).IsSound separators.key :=
  ⟨TokenRow.isSound_start .., Pending.start separators fragments, .refl _,
    by simp [firstMoment, Moment.index?]⟩

/-- **The run that spells a key.** At every moment of the run over the fragments the row of tokens
is sound, it begins with the tokens that were closed before the fragment at hand, and the token that
a value is charged to was open or not yet there when the value began. No step fails on the row. The
run can be continued from every moment until nothing is left to be fed; the namespace is then closed
once if there is a boundary, and never otherwise, and the row is finished as the key, whose path is
not empty. -/
theorem parse_steps (separators : Separators) (fragments : List Fragment) :
    let k := parse separators fragments
    let boundary? := Boundary.find? separators.ns fragments
    let start := firstMoment separators fragments
    start.row = TokenRow.start boundary?.isNone ∧ k.path ≠ [] ∧
    ∀ acts m, Moment.Runs separators.key start acts m →
      m.row.IsSound separators.key ∧
      m.first.Extends m.segments ∧
      acts.foldlM TokenRow.act? start.row = some m.row ∧
      (∀ acts' m' index n, Moment.Step separators.key m acts' m' →
        TokenRow.Act.charge index n ∈ acts' →
          m.first.openIndex ≤ index ∧ index < m.row.tokens.length) ∧
      ∃ acts' s, Moment.Runs separators.key m acts' (.between s none []) ∧
        (acts ++ acts').countP TokenRow.Act.closesNamespace = (if boundary?.isSome then 1 else 0) ∧
        s.row.finish? = some (k.ns?, k.path) := by
  intro k boundary? start
  have hstart : start.IsSound separators.key := isSound_firstMoment separators fragments
  refine ⟨rfl, path_parse_ne_nil separators fragments, fun acts m hrun => ?_⟩
  have hm := hrun.isSound hstart
  refine ⟨hm.row, hm.extends_first, hrun.foldlM_act? hstart, fun acts' m' index n hstep hmem => ?_,
    ?_⟩
  · cases hstep with
    | beginLiteral | beginValue | endLiteral | leave => simp at hmem
    | literalChar | valueChar => simp at hmem
    | endValue first sourceLength feed opens here? later? rest =>
      obtain ⟨rfl, -⟩ : index = feed.index ∧ n = sourceLength - feed.cuts := by simpa using hmem
      exact hm.index _ rfl
  · obtain ⟨acts', later?, hrest⟩ := Moment.exists_runs separators.key m
    have hend := hrest.isSound hm
    obtain ⟨hpath, rfl⟩ := hend.pending.inPath_of_nil
    refine ⟨acts', _, hrest, ?_, ?_⟩
    · have hcount := (hrun.trans hrest).countP_closesNamespace hstart
      have hfirst : start.row.inPath = boundary?.isNone := rfl
      rw [hpath, hfirst] at hcount
      cases hb : boundary? <;> simpa [hb] using hcount
    · have hrow : (m.result separators.key).row.IsSound separators.key := hend.row
      rw [hrow.finish?_row, hrun.result_eq]
      rfl

end Key

end MessageKeys
