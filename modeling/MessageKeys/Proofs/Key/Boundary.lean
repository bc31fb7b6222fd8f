import MessageKeys.Proofs.Key.Reading

/-!
# The boundary of an expression

The boundary is the first namespace separator in the earliest literal that contains one. Only if no
literal contains any, it is the first one in the earliest interpolated value that contains one.

## Main definitions

* `MessageKeys.Boundary.IsAt` — a place is the boundary of an expression.
* `MessageKeys.Boundary.LiesIn` — a place is that of a character of an expression.

## Main results

* `MessageKeys.Boundary.find?_eq_some_iff`, `MessageKeys.Boundary.find?_eq_none_iff` — the search
  finds the boundary, if there is one.
* `MessageKeys.Boundary.LiesIn.offset_lt` — the offset of a character lies in the evaluated text.
-/

namespace MessageKeys

namespace Boundary

/-- A place is that of the first separator in the first fragment that counts and contains one. -/
def IsFirst (ns : Char) (counts : Fragment → Bool) (fragments : List Fragment) (b : Boundary) :
    Prop :=
  ∃ before f after start rest,
    fragments = before ++ f :: after ∧ f.resolved.toList = start ++ ns :: rest ∧
      counts f = true ∧ (∀ g ∈ before, counts g = true → ns ∉ g.resolved.toList) ∧ ns ∉ start ∧
      b = ⟨before.length, start.length⟩

/-- A place is the boundary of an expression. -/
def IsAt (ns : Char) (fragments : List Fragment) (b : Boundary) : Prop :=
  IsFirst ns Fragment.isLiteral fragments b ∨
    (∀ f ∈ fragments, f.isLiteral = true → ns ∉ f.resolved.toList) ∧
      IsFirst ns (fun f => !f.isLiteral) fragments b

/-- A place is that of a character of an expression. -/
def LiesIn (b : Boundary) (fragments : List Fragment) : Prop :=
  ∃ f, fragments[b.fragment]? = some f ∧ b.position < f.resolved.length

variable {ns : Char} {counts : Fragment → Bool} {fragments : List Fragment} {b : Boundary}

/-! ### The search -/

theorem first?_eq_none_iff :
    first? ns counts fragments = none ↔
      ∀ f ∈ fragments, counts f = true → ns ∉ f.resolved.toList := by
  induction fragments with
  | nil => simp [first?]
  | cons f fs ih =>
    by_cases hc : counts f = true
    · cases hf : f.resolved.toList.idxOf? ns with
      | none =>
        have hns : ns ∉ f.resolved.toList := List.idxOf?_eq_none_iff.mp hf
        simp [first?, hc, hf, hns, ih]
      | some p =>
        have hns : ns ∈ f.resolved.toList := List.isSome_idxOf?.mp (by simp [hf])
        simp [first?, hc, hf, hns]
    · simp [first?, hc, ih]

/-- The first character of a list with a value stands behind others. -/
theorem idxOf?_eq_some_iff_append {c : Char} {cs : List Char} {n : Nat} :
    cs.idxOf? c = some n ↔
      ∃ start rest, cs = start ++ c :: rest ∧ c ∉ start ∧ n = start.length := by
  constructor
  · intro h
    obtain ⟨hn, rfl, hlt⟩ := List.idxOf?_eq_some_iff.mp h
    refine ⟨cs.take n, cs.drop (n + 1), ?_, ?_, by simp [Nat.le_of_lt hn]⟩
    · rw [← List.drop_eq_getElem_cons hn, List.take_append_drop]
    · intro hmem
      obtain ⟨i, hi, hc⟩ := List.mem_take_iff_getElem.mp hmem
      exact hlt i (by omega) hc
  · rintro ⟨start, rest, rfl, hc, rfl⟩
    refine List.idxOf?_eq_some_iff.mpr ⟨by simp, by simp, fun j hj => ?_⟩
    rw [List.getElem_append_left hj]
    exact fun h => hc (h ▸ List.getElem_mem hj)

theorem idxOf?_append_of_notMem {c : Char} {cs ds : List Char} (h : c ∉ ds) :
    (cs ++ ds).idxOf? c = cs.idxOf? c := by
  cases hcs : cs.idxOf? c with
  | none =>
    rw [List.idxOf?_eq_none_iff] at hcs ⊢
    simp [hcs, h]
  | some n =>
    obtain ⟨start, rest, rfl, hstart, rfl⟩ := idxOf?_eq_some_iff_append.mp hcs
    exact idxOf?_eq_some_iff_append.mpr ⟨start, rest ++ ds, by simp, hstart, rfl⟩

theorem first?_eq_some_iff :
    first? ns counts fragments = some b ↔ IsFirst ns counts fragments b := by
  induction fragments generalizing b with
  | nil => simp [first?, IsFirst]
  | cons f fs ih =>
    by_cases hc : counts f = true ∧ ns ∈ f.resolved.toList
    · obtain ⟨p, hp⟩ := Option.isSome_iff_exists.mp (List.isSome_idxOf?.mpr hc.2)
      obtain ⟨start, rest, hf, hs, rfl⟩ := idxOf?_eq_some_iff_append.mp hp
      have hfirst : first? ns counts (f :: fs) = some ⟨0, start.length⟩ := by
        simp [first?, hc.1, hp]
      rw [hfirst, Option.some_inj]
      constructor
      · rintro rfl
        exact ⟨[], f, fs, start, rest, rfl, hf, hc.1, by simp, hs, rfl⟩
      · rintro ⟨before, g, after, start', rest', hfs, hg, -, hbefore, hs', rfl⟩
        cases before with
        | nil =>
          obtain ⟨rfl, rfl⟩ := List.cons.inj hfs
          rw [idxOf?_eq_some_iff_append.mpr ⟨start', rest', hg, hs', rfl⟩] at hp
          rw [Option.some_inj.mp hp]
          rfl
        | cons f' before =>
          obtain ⟨rfl, -⟩ := List.cons.inj hfs
          exact absurd hc.2 (hbefore f List.mem_cons_self hc.1)
    · have hnone : (if counts f then f.resolved.toList.idxOf? ns else none) = none := by
        split_ifs with h
        · exact List.idxOf?_eq_none_iff.mpr fun hm => hc ⟨h, hm⟩
        · rfl
      have hfirst : first? ns counts (f :: fs) =
          (first? ns counts fs).map fun b => { b with fragment := b.fragment + 1 } := by
        simp only [first?, hnone]
      rw [hfirst, Option.map_eq_some_iff]
      constructor
      · rintro ⟨b', hb', rfl⟩
        obtain ⟨before, g, after, start, rest, rfl, hg, hcg, hbefore, hs, rfl⟩ := ih.mp hb'
        refine ⟨f :: before, g, after, start, rest, rfl, hg, hcg, ?_, hs, rfl⟩
        intro g' hg' hcg'
        rcases List.mem_cons.mp hg' with rfl | hg'
        · exact fun hm => hc ⟨hcg', hm⟩
        · exact hbefore g' hg' hcg'
      · rintro ⟨before, g, after, start, rest, hfs, hg, hcg, hbefore, hs, rfl⟩
        cases before with
        | nil =>
          obtain ⟨rfl, rfl⟩ := List.cons.inj hfs
          exact absurd ⟨hcg, by simp [hg]⟩ hc
        | cons f' before =>
          obtain ⟨rfl, rfl⟩ := List.cons.inj hfs
          exact ⟨⟨before.length, start.length⟩, ih.mpr ⟨before, g, after, start, rest, rfl, hg, hcg,
            fun g' hg' => hbefore g' (List.mem_cons_of_mem _ hg'), hs, rfl⟩, rfl⟩

theorem find?_eq_some_iff : find? ns fragments = some b ↔ IsAt ns fragments b := by
  rw [find?, IsAt, ← first?_eq_some_iff, ← first?_eq_some_iff, ← first?_eq_none_iff]
  cases first? ns Fragment.isLiteral fragments <;> simp

/-- There is no boundary exactly if there is no separator. -/
theorem find?_eq_none_iff :
    find? ns fragments = none ↔ ∀ f ∈ fragments, ns ∉ f.resolved.toList := by
  have hsplit : find? ns fragments = none ↔
      first? ns Fragment.isLiteral fragments = none ∧
        first? ns (fun f => !f.isLiteral) fragments = none := by
    rw [find?]
    cases first? ns Fragment.isLiteral fragments <;> simp
  rw [hsplit, first?_eq_none_iff, first?_eq_none_iff]
  constructor
  · rintro ⟨hl, hv⟩ f hf
    cases h : f.isLiteral with
    | true => exact hl f hf h
    | false => exact hv f hf (by simp [h])
  · exact fun h => ⟨fun f hf _ => h f hf, fun f hf _ => h f hf⟩

theorem IsFirst.liesIn (h : IsFirst ns counts fragments b) : b.LiesIn fragments := by
  obtain ⟨before, f, after, start, rest, rfl, hf, -, -, -, rfl⟩ := h
  refine ⟨f, by simp, ?_⟩
  rw [← String.length_toList, hf]
  simp

theorem liesIn_of_find? (h : find? ns fragments = some b) : b.LiesIn fragments :=
  match find?_eq_some_iff.mp h with
  | .inl h => h.liesIn
  | .inr ⟨_, h⟩ => h.liesIn

/-! ### Places and offsets -/

@[simp] theorem offset_zero (p : Nat) (fragments : List Fragment) :
    offset ⟨0, p⟩ fragments = p := by
  simp [offset]

@[simp] theorem offset_succ (n p : Nat) (f : Fragment) (fs : List Fragment) :
    offset ⟨n + 1, p⟩ (f :: fs) = f.marks.length + offset ⟨n, p⟩ fs := by
  simp [offset, Nat.add_assoc]

/-- The offset of a character lies in the evaluated text. -/
theorem LiesIn.offset_lt (h : b.LiesIn fragments) :
    b.offset fragments < (Fragment.allMarks fragments).length := by
  obtain ⟨f, hf, hp⟩ := h
  obtain ⟨hn, rfl⟩ := List.getElem?_eq_some_iff.mp hf
  have hmarks : (Fragment.allMarks fragments).length =
      (Fragment.allMarks (fragments.take b.fragment)).length +
        (fragments[b.fragment].marks.length +
          (Fragment.allMarks (fragments.drop (b.fragment + 1))).length) := by
    rw [← List.length_append, ← Fragment.allMarks_cons, ← List.drop_eq_getElem_cons hn,
      ← List.length_append, ← Fragment.allMarks_append, List.take_append_drop]
  rw [offset, hmarks, Fragment.length_marks]
  omega

end Boundary

end MessageKeys
