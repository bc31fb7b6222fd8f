import Mathlib.Algebra.Order.Ring.Nat
import Mathlib.Data.List.Induction
import MessageKeys.Key.Basic

/-!
# Reading an evaluated expression

The evaluated text of an expression is a list of *marks*: its characters in order, of which those
that open an interpolated value are marked. A *reading* says what each of them is, by the text
before it alone: the boundary, a key separator, a key separator that is swallowed, or text. It knows
nothing of tokens, of lengths, or of where fragments end.

## Main definitions

* `MessageKeys.Mark`, `MessageKeys.Fragment.marks` — the evaluated text.
* `MessageKeys.Mark.keep` — path text without the separators that are swallowed.
* `MessageKeys.Reading` — the key separator and the place of the boundary, with
  `Reading.pathText`, `Reading.pieces`, `Reading.role`.
* `MessageKeys.Reading.cuts`, `MessageKeys.Reading.excesses` — the separators that a fragment
  contributes, and by how much they outnumber its source characters.
* `MessageKeys.Reading.Fits` — they never do.

## Main results

* `MessageKeys.Reading.pieces_of_isCut`, `MessageKeys.Reading.pieces_of_swallowed`,
  `MessageKeys.Reading.pieces_of_text` — what a character does to the pieces, by its role.
-/

namespace MessageKeys

/-! ### Splitting at a separator -/

namespace Reading

theorem exists_splitOn_eq (key : Char) (K : List Char) :
    ∃ closed last, K.splitOn key = closed ++ [last] :=
  ⟨_, _, (List.dropLast_concat_getLast (List.splitOn_ne_nil key K)).symm⟩

theorem eq_of_singleton_eq_append {α : Type} {x y : α} {xs : List α} (h : [x] = xs ++ [y]) :
    xs = [] ∧ x = y := by
  obtain ⟨hxs, hxy⟩ : [] = xs ∧ x = y := List.append_singleton_inj.mp h
  exact ⟨hxs.symm, hxy⟩

theorem splitOn_append_self (key : Char) (K : List Char) :
    (K ++ [key]).splitOn key = K.splitOn key ++ [[]] := by
  rw [List.splitOn_append_cons_self, List.splitOn_nil]

theorem splitOn_append_of_notMem {key : Char} {K closing : List Char} {closed : List (List Char)}
    {last : List Char} (h : K.splitOn key = closed ++ [last]) (hc : key ∉ closing) :
    (K ++ closing).splitOn key = closed ++ [last ++ closing] := by
  induction K using List.reverseRecOn generalizing closed last closing with
  | nil =>
    obtain ⟨rfl, rfl⟩ := eq_of_singleton_eq_append h
    exact List.splitOn_eq_singleton hc
  | append_singleton K c ih =>
    by_cases hk : c = key
    · subst hk
      rw [splitOn_append_self] at h
      obtain ⟨rfl, rfl⟩ := List.append_singleton_inj.mp h
      rw [List.append_assoc, List.singleton_append, List.splitOn_append_cons_self,
        List.splitOn_eq_singleton hc, List.nil_append]
    · obtain ⟨closed', last', hK⟩ := exists_splitOn_eq key K
      rw [ih hK (by simpa using Ne.symm hk)] at h
      obtain ⟨rfl, rfl⟩ := List.append_singleton_inj.mp h
      rw [List.append_assoc, List.singleton_append,
        ih hK (by simp [Ne.symm hk, hc]), List.append_assoc, List.singleton_append]

theorem last_splitOn_eq_nil_iff {key : Char} {K : List Char} {closed : List (List Char)}
    {last : List Char} (h : K.splitOn key = closed ++ [last]) :
    last = [] ↔ K = [] ∨ K.getLast? = some key := by
  induction K using List.reverseRecOn with
  | nil =>
    obtain ⟨-, rfl⟩ := eq_of_singleton_eq_append h
    simp
  | append_singleton K c ih =>
    by_cases hk : c = key
    · subst hk
      rw [splitOn_append_self] at h
      obtain ⟨-, rfl⟩ := List.append_singleton_inj.mp h
      simp
    · obtain ⟨closed', last', hK⟩ := exists_splitOn_eq key K
      rw [splitOn_append_of_notMem hK (by simpa using Ne.symm hk)] at h
      obtain ⟨-, rfl⟩ := List.append_singleton_inj.mp h
      simp [hk]

end Reading

/-! ### The evaluated text -/

/-- A character of the evaluated text. -/
structure Mark where
  char : Char
  /-- Whether an interpolated value begins with it. -/
  opens : Bool
  deriving DecidableEq, Repr

namespace Mark

/-- The characters of one fragment; the first of them may open a value. -/
def row : (opens : Bool) → List Char → List Mark
  | _, [] => []
  | opens, c :: cs => ⟨c, opens⟩ :: row false cs

/-- Whether a mark is a key separator that begins an interpolated value and closes nothing: the
text before it is empty, or ends in a key separator itself. -/
def repeats (key : Char) (before : List Char) (m : Mark) : Bool :=
  m.opens && m.char == key && (before.isEmpty || before.getLast? == some key)

/-- A text without the key separators that only repeat the one before them. -/
def keep (key : Char) (ms : List Mark) : List Char :=
  ms.foldl (fun kept m => if m.repeats key kept then kept else kept ++ [m.char]) []

@[simp] theorem row_nil (opens : Bool) : row opens [] = [] := rfl

@[simp] theorem length_row (opens : Bool) (cs : List Char) : (row opens cs).length = cs.length := by
  induction cs generalizing opens with
  | nil => rfl
  | cons c cs ih => simp [row, ih]

/-- No value begins in a literal. -/
theorem row_false_eq_map (cs : List Char) : row false cs = cs.map fun c => ⟨c, false⟩ := by
  induction cs with
  | nil => rfl
  | cons c cs ih => rw [row, ih, List.map_cons]

theorem row_false_append (cs ds : List Char) :
    row false (cs ++ ds) = row false cs ++ row false ds := by
  rw [row_false_eq_map, row_false_eq_map, row_false_eq_map, List.map_append]

theorem map_char_row (opens : Bool) (cs : List Char) : (row opens cs).map char = cs := by
  induction cs generalizing opens with
  | nil => rfl
  | cons c cs ih => rw [row, List.map_cons, ih]

@[simp] theorem keep_nil (key : Char) : keep key [] = [] := rfl

theorem keep_append_singleton (key : Char) (ms : List Mark) (m : Mark) :
    keep key (ms ++ [m]) =
      if m.repeats key (keep key ms) then keep key ms else keep key ms ++ [m.char] := by
  rw [keep, List.foldl_append]
  rfl

end Mark

namespace Fragment

/-- The marks of a fragment. -/
def marks : Fragment → List Mark
  | literal text => Mark.row false text.toList
  | interpolated _ value => Mark.row true value.toList

/-- The marks of an expression. -/
def allMarks (fragments : List Fragment) : List Mark := fragments.flatMap marks

@[simp] theorem allMarks_nil : allMarks [] = [] := rfl

@[simp] theorem allMarks_cons (f : Fragment) (fs : List Fragment) :
    allMarks (f :: fs) = f.marks ++ allMarks fs := rfl

@[simp] theorem allMarks_append (fs gs : List Fragment) :
    allMarks (fs ++ gs) = allMarks fs ++ allMarks gs := by
  simp only [allMarks, List.flatMap_append]

@[simp] theorem length_marks (f : Fragment) : f.marks.length = f.resolved.length := by
  cases f <;> simp [marks, String.length_toList]

/-- The source characters of an expression. -/
def sourceLengths (fragments : List Fragment) : Nat := (fragments.map sourceLength).sum

@[simp] theorem sourceLengths_nil : sourceLengths [] = 0 := rfl

@[simp] theorem sourceLengths_cons (f : Fragment) (fs : List Fragment) :
    sourceLengths (f :: fs) = f.sourceLength + sourceLengths fs := by
  simp [sourceLengths]

@[simp] theorem sourceLengths_append (fs gs : List Fragment) :
    sourceLengths (fs ++ gs) = sourceLengths fs + sourceLengths gs := by
  simp [sourceLengths]

end Fragment

/-- The place of a boundary in the evaluated text, in characters. -/
def Boundary.offset (b : Boundary) (fragments : List Fragment) : Nat :=
  (Fragment.allMarks (fragments.take b.fragment)).length + b.position

/-! ### Readings -/

/-- How an evaluated text is read. -/
structure Reading where
  /-- The key separator. -/
  key : Char
  /-- The place of the boundary, if there is one. -/
  boundary? : Option Nat
  deriving DecidableEq, Repr

/-- What a character is. -/
inductive Role where
  /-- The namespace separator that ends the namespace. -/
  | boundary
  /-- A key separator between two segments. -/
  | separator
  /-- A key separator that only repeats the one before it. -/
  | swallowed
  | text
  deriving DecidableEq, Repr

/-- Whether a token ends with a character. -/
def Role.isCut : Role → Bool
  | boundary | separator => true
  | swallowed | text => false

namespace Reading

variable (r : Reading)

/-- The reading of an expression. -/
def ofFragments (separators : Separators) (fragments : List Fragment) : Reading :=
  ⟨separators.key, (Boundary.find? separators.ns fragments).map fun b => b.offset fragments⟩

/-- Whether the path has begun behind some text. -/
def inPath (before : List Mark) : Bool := r.boundary?.all fun b => decide (b < before.length)

/-- The text before the boundary. -/
def nsText? (ms : List Mark) : Option (List Char) :=
  r.boundary?.map fun b => (ms.take b).map Mark.char

/-- The text behind the boundary, without the separators that are swallowed. -/
def pathText (ms : List Mark) : List Char :=
  match r.boundary? with
  | none => Mark.keep r.key ms
  | some b => Mark.keep r.key (ms.drop (b + 1))

/-- The texts of the tokens, of which the last is still open. -/
def pieces (ms : List Mark) : List (List Char) :=
  if r.inPath ms then (r.nsText? ms).toList ++ (r.pathText ms).splitOn r.key
  else [ms.map Mark.char]

/-- What a character is behind some text. -/
def role (before : List Mark) (m : Mark) : Role :=
  if r.boundary? = some before.length then .boundary
  else if r.inPath before && m.char == r.key then
    if m.repeats r.key (r.pathText before) then .swallowed else .separator
  else .text

/-- The number of cuts among some characters behind a text. -/
def cutsBehind : (before : List Mark) → List Mark → Nat
  | _, [] => 0
  | before, m :: ms =>
    (if (r.role before m).isCut then 1 else 0) + cutsBehind (before ++ [m]) ms

/-- The number of separators that a fragment contributes behind others: the boundary, if it lies
there, and the key separators behind the boundary that are not swallowed. -/
def cuts (before : List Fragment) (f : Fragment) : Nat :=
  r.cutsBehind (Fragment.allMarks before) f.marks

/-- By how much the separators of an interpolated value outnumber its source characters. -/
def excess (before : List Fragment) : Fragment → Nat
  | .literal _ => 0
  | .interpolated source value => r.cuts before (.interpolated source value) - source.length

/-- The excesses of some fragments behind others. -/
def excesses : (before : List Fragment) → List Fragment → List Nat
  | _, [] => []
  | before, f :: fs => r.excess before f :: excesses (before ++ [f]) fs

/-- No interpolated value contributes more separators than its source has characters. -/
def Fits (fragments : List Fragment) : Prop :=
  ∀ before source value after, fragments = before ++ .interpolated source value :: after →
    r.cuts before (.interpolated source value) ≤ source.length

/-! ### Where the path begins -/

variable {r} {before : List Mark} {m : Mark}

theorem inPath_eq_true_iff :
    r.inPath before = true ↔ ∀ b, r.boundary? = some b → b < before.length := by
  cases hb : r.boundary? <;> simp [inPath, hb]

theorem inPath_append_singleton :
    r.inPath (before ++ [m]) = (r.inPath before || r.boundary? == some before.length) := by
  cases hb : r.boundary? with
  | none => simp [inPath, hb]
  | some b =>
    have hlt : b < before.length + 1 ↔ b < before.length ∨ b = before.length := by omega
    rw [Bool.eq_iff_iff]
    simpa [inPath, hb] using hlt

/-- Nothing is added to the namespace in the path. -/
theorem nsText?_append (h : r.inPath before = true) (ms : List Mark) :
    r.nsText? (before ++ ms) = r.nsText? before := by
  cases hb : r.boundary? with
  | none => simp [nsText?, hb]
  | some b =>
    have hlt := inPath_eq_true_iff.mp h b hb
    simp only [nsText?, hb, Option.map_some, List.take_append_of_le_length (Nat.le_of_lt hlt)]

theorem pathText_append_singleton (h : r.inPath before = true) :
    r.pathText (before ++ [m]) =
      if m.repeats r.key (r.pathText before) then r.pathText before
      else r.pathText before ++ [m.char] := by
  cases hb : r.boundary? with
  | none => simp only [pathText, hb, Mark.keep_append_singleton]
  | some b =>
    have hlt := inPath_eq_true_iff.mp h b hb
    simp only [pathText, hb, List.drop_append_of_le_length (Nat.succ_le_of_lt hlt),
      Mark.keep_append_singleton]

theorem pieces_of_inPath (h : r.inPath before = true) :
    r.pieces before = (r.nsText? before).toList ++ (r.pathText before).splitOn r.key := by
  rw [pieces, if_pos h]

theorem pieces_of_not_inPath (h : r.inPath before = false) :
    r.pieces before = [before.map Mark.char] := by
  rw [pieces, if_neg (by simp [h])]

/-- In the path, the last piece is the last segment. -/
theorem exists_pieces_eq_of_inPath (h : r.inPath before = true) {closed : List (List Char)}
    {last : List Char} (hp : r.pieces before = closed ++ [last]) :
    ∃ segments, closed = (r.nsText? before).toList ++ segments ∧
      (r.pathText before).splitOn r.key = segments ++ [last] := by
  obtain ⟨segments, last', hs⟩ := exists_splitOn_eq r.key (r.pathText before)
  rw [pieces_of_inPath h, hs, ← List.append_assoc] at hp
  obtain ⟨rfl, rfl⟩ := List.append_singleton_inj.mp hp
  exact ⟨segments, rfl, hs⟩

/-! ### What each character does to the pieces -/

theorem role_eq_boundary_iff : r.role before m = .boundary ↔ r.boundary? = some before.length := by
  unfold role
  split_ifs <;> simp_all

theorem role_eq_separator_iff :
    r.role before m = .separator ↔
      r.boundary? ≠ some before.length ∧ r.inPath before = true ∧ m.char = r.key ∧
        m.repeats r.key (r.pathText before) = false := by
  unfold role
  split_ifs <;> simp_all

theorem role_eq_swallowed_iff :
    r.role before m = .swallowed ↔
      r.boundary? ≠ some before.length ∧ r.inPath before = true ∧
        m.repeats r.key (r.pathText before) = true := by
  unfold role
  split_ifs <;> simp_all [Mark.repeats]

theorem role_eq_text_iff :
    r.role before m = .text ↔
      r.boundary? ≠ some before.length ∧ (r.inPath before = true → m.char ≠ r.key) := by
  unfold role
  split_ifs <;> simp_all

theorem not_inPath_of_boundary (h : r.boundary? = some before.length) :
    r.inPath before = false := by
  simp [inPath, h]

/-- A cut leaves a new, empty piece behind. -/
theorem pieces_of_isCut (h : (r.role before m).isCut = true) :
    r.pieces (before ++ [m]) = r.pieces before ++ [[]] := by
  cases hr : r.role before m with
  | boundary =>
    have hb := role_eq_boundary_iff.mp hr
    have hpath : r.inPath (before ++ [m]) = true := by simp [inPath_append_singleton, hb]
    rw [pieces_of_not_inPath (not_inPath_of_boundary hb), pieces_of_inPath hpath]
    simp [nsText?, pathText, hb]
  | separator =>
    obtain ⟨-, hpath, hc, hrep⟩ := role_eq_separator_iff.mp hr
    have hpath' : r.inPath (before ++ [m]) = true := by simp [inPath_append_singleton, hpath]
    rw [pieces_of_inPath hpath, pieces_of_inPath hpath', nsText?_append hpath,
      pathText_append_singleton hpath, hrep, if_neg Bool.false_ne_true, hc, splitOn_append_self,
      List.append_assoc]
  | swallowed => simp [hr, Role.isCut] at h
  | text => simp [hr, Role.isCut] at h

/-- A swallowed separator leaves no trace. -/
theorem pieces_of_swallowed (h : r.role before m = .swallowed) :
    r.pieces (before ++ [m]) = r.pieces before := by
  obtain ⟨-, hpath, hrep⟩ := role_eq_swallowed_iff.mp h
  have hpath' : r.inPath (before ++ [m]) = true := by simp [inPath_append_singleton, hpath]
  rw [pieces_of_inPath hpath, pieces_of_inPath hpath', nsText?_append hpath,
    pathText_append_singleton hpath, if_pos hrep]

/-- Text is added to the last piece. -/
theorem pieces_of_text (h : r.role before m = .text) {closed : List (List Char)}
    {last : List Char} (hp : r.pieces before = closed ++ [last]) :
    r.pieces (before ++ [m]) = closed ++ [last ++ [m.char]] := by
  obtain ⟨hb, hc⟩ := role_eq_text_iff.mp h
  have hnext : r.inPath (before ++ [m]) = r.inPath before := by
    simp [inPath_append_singleton, hb]
  cases hpath : r.inPath before with
  | false =>
    rw [pieces_of_not_inPath hpath] at hp
    obtain ⟨rfl, rfl⟩ := eq_of_singleton_eq_append hp
    rw [pieces_of_not_inPath (hnext.trans hpath)]
    simp
  | true =>
    obtain ⟨segments, rfl, hs⟩ := exists_pieces_eq_of_inPath hpath hp
    have hrep : m.repeats r.key (r.pathText before) = false := by
      simp [Mark.repeats, hc hpath]
    rw [pieces_of_inPath (hnext.trans hpath), nsText?_append hpath,
      pathText_append_singleton hpath, hrep, if_neg Bool.false_ne_true,
      splitOn_append_of_notMem hs (by simpa using (hc hpath).symm), List.append_assoc]

end Reading

end MessageKeys
