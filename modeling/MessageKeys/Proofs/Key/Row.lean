import MessageKeys.Proofs.Key.Growth

/-!
# Tokens in one row

The tokens of an expression can be kept in one row, of which the last one is open. They are then
reached by their indices: an index can lie behind the row, and an empty row has no last index. Here
each access is checked, and fails where the row has no such token. The row of the tokens under
construction never fails, and what holds of it all along is said in `TokenRow.IsSound`.

## Main definitions

* `MessageKeys.TokenRow` — tokens in one row, with the flags of the parser.
* `MessageKeys.TokenRow.Act`, `MessageKeys.TokenRow.act?` — what is done to a row, with every access
  checked.
* `MessageKeys.TokenRow.finish?` — the namespace and the path of a row.
* `MessageKeys.TokenRow.IsSound` — what holds of a row while it grows.
* `MessageKeys.Segments.row` — the row of the tokens under construction.

## Main results

* `MessageKeys.Segments.act?_read`, `MessageKeys.Segments.act?_charge` — reading and charging do not
  fail.
* `MessageKeys.TokenRow.IsSound.advance`, `MessageKeys.TokenRow.IsSound.charge` — both keep a row
  sound.
* `MessageKeys.TokenRow.IsSound.finish?_row` — a sound row can be finished.
-/

namespace MessageKeys

/-- Tokens in one row, the last of which is open. -/
structure TokenRow where
  tokens : List Token
  /-- Whether key separators count. -/
  inPath : Bool
  /-- Whether the first token is the namespace. -/
  hasNamespace : Bool
  deriving DecidableEq, Repr

namespace TokenRow

/-- One thing that is done to a row. -/
inductive Act where
  /-- A character is read that counts for `width` source characters. -/
  | read (c : Char) (width : Nat) (role : Role)
  /-- The token at an index is charged `n` source characters. -/
  | charge (index n : Nat)
  deriving DecidableEq, Repr

/-- Whether the namespace is closed. -/
def Act.closesNamespace : Act → Bool
  | read _ _ role => role = .boundary
  | charge _ _ => false

/-- One open, empty token. -/
def start (inPath : Bool) : TokenRow := ⟨[Token.empty], inPath, false⟩

/-- The index of the open token: one less than there are tokens, if that is a number. -/
def openIndex? (row : TokenRow) : Option Nat :=
  if row.tokens.length = 0 then none else some (row.tokens.length - 1)

/-- Changes the token at an index, if there is one. -/
def modify? (row : TokenRow) (index : Nat) (f : Token → Token) : Option TokenRow :=
  if index < row.tokens.length then some { row with tokens := row.tokens.modify index f } else none

/-- The token behind some others is there and is changed alone. -/
theorem modify?_eq {row : TokenRow} {older newer : List Token} {t : Token}
    (h : row.tokens = older ++ t :: newer) (f : Token → Token) :
    row.modify? older.length f = some { row with tokens := older ++ f t :: newer } := by
  have hlt : older.length < row.tokens.length := by simp [h]
  have hmodify : (older ++ t :: newer).modify older.length f = older ++ f t :: newer := by
    rw [List.modify_eq_take_cons_drop (by simp)]
    simp
  rw [modify?, if_pos hlt, h, hmodify]

/-- Opens a new token. -/
def push (row : TokenRow) : TokenRow := { row with tokens := row.tokens ++ [Token.empty] }

/-- Does one thing to a row. What a character does depends on the open token. -/
def act? (row : TokenRow) : Act → Option TokenRow
  | .read c width role =>
    row.openIndex?.bind fun index =>
      match role with
      | .boundary => some { row.push with inPath := true, hasNamespace := true }
      | .separator => some row.push
      | .swallowed => some row
      | .text => row.modify? index (·.receive c width)
  | .charge index n => row.modify? index (·.charge n)

/-- The tokens behind the namespace, or all of them if there is none. -/
def path (row : TokenRow) : List Token := if row.hasNamespace then row.tokens.tail else row.tokens

/-- The namespace, which is taken from a row that must have a first token, and the path. -/
def finish? (row : TokenRow) : Option (Option Token × List Token) :=
  if row.hasNamespace then row.tokens.head?.map fun ns => (some ns, row.path)
  else some (none, row.path)

end TokenRow

/-! ### The row of the tokens under construction -/

namespace Segments

/-- All tokens in one row. -/
def row (s : Segments) : TokenRow := ⟨s.tokens, s.inPath, s.hasNamespace⟩

theorem length_tokens (s : Segments) : s.tokens.length = s.openIndex + 1 := by
  simp [tokens, openIndex]

theorem lt_length_tokens_iff {s : Segments} {index : Nat} :
    index < s.tokens.length ↔ index ≤ s.openIndex := by
  rw [length_tokens, Nat.lt_succ_iff]

theorem openIndex?_row (s : Segments) : s.row.openIndex? = some s.openIndex := by
  rw [TokenRow.openIndex?, row, s.length_tokens, if_neg (Nat.succ_ne_zero _), Nat.add_sub_cancel]

/-- Reading a character does not fail. -/
theorem act?_read (s : Segments) (c : Char) (width : Nat) (role : Role) :
    s.row.act? (.read c width role) = some (s.advance c width role).row := by
  rw [TokenRow.act?, openIndex?_row, Option.bind_some]
  cases role with
  | boundary | separator | swallowed => rfl
  | text =>
    have htokens : s.row.tokens = s.closed ++ s.current :: [] := rfl
    exact TokenRow.modify?_eq htokens (·.receive c width)

@[simp] theorem inPath_charge (s : Segments) (index n : Nat) :
    (s.charge index n).inPath = s.inPath := by
  unfold charge
  split_ifs <;> rfl

@[simp] theorem hasNamespace_charge (s : Segments) (index n : Nat) :
    (s.charge index n).hasNamespace = s.hasNamespace := by
  unfold charge
  split_ifs <;> rfl

/-- Charging a token does not fail if there is one at the index. -/
theorem act?_charge {s : Segments} {index : Nat} (h : index < s.tokens.length) (n : Nat) :
    s.row.act? (.charge index n) = some (s.charge index n).row := by
  obtain ⟨older, t, newer, htokens, hindex, hcharge⟩ := s.tokens_charge index n
  have hrow : s.row.tokens = older ++ t :: newer := htokens
  rw [lt_length_tokens_iff] at h
  obtain rfl : older.length = index := by rw [hindex, Nat.min_eq_left h]
  rw [TokenRow.act?, TokenRow.modify?_eq hrow]
  simp [row, hcharge]

end Segments

/-! ### Sound rows -/

namespace TokenRow

/-- What holds of a row while it grows. -/
structure IsSound (key : Char) (row : TokenRow) : Prop where
  tokens_ne_nil : row.tokens ≠ []
  /-- Before the path there is one token, which will be the namespace. -/
  outside : row.inPath = false → row.tokens.length = 1 ∧ row.hasNamespace = false
  behind : row.hasNamespace = true → row.inPath = true ∧ 2 ≤ row.tokens.length
  notMem_key : row.inPath = true → ∀ t ∈ row.path, key ∉ t.text.toList

variable {key : Char} {row row' : TokenRow} {s : Segments}

theorem isSound_start (key : Char) (inPath : Bool) : (start inPath).IsSound key where
  tokens_ne_nil := by simp [start]
  outside _ := ⟨rfl, rfl⟩
  behind h := by cases h
  notMem_key _ := by simp [path, start, Token.empty]

/-- A sound row can be finished, like the tokens under construction. -/
theorem IsSound.finish?_row (h : s.row.IsSound key) : s.row.finish? = some s.finish := by
  unfold finish? Segments.finish
  cases hn : s.hasNamespace with
  | false => simp [Segments.row, path, hn]
  | true =>
    obtain ⟨-, hlen⟩ := h.behind hn
    cases hc : s.closed with
    | nil => simp [Segments.row, Segments.tokens, hc] at hlen
    | cons ns older => simp [Segments.row, path, Segments.tokens, hn, hc]

/-- Soundness does not depend on the lengths of the tokens. -/
theorem IsSound.of_texts (h : row.IsSound key)
    (htexts : row'.tokens.map Token.text = row.tokens.map Token.text)
    (hpath : row'.inPath = row.inPath) (hns : row'.hasNamespace = row.hasNamespace) :
    row'.IsSound key := by
  have hlen : row'.tokens.length = row.tokens.length := by
    simpa using congrArg List.length htexts
  have hpaths : row'.path.map Token.text = row.path.map Token.text := by
    unfold path
    rw [hns]
    split_ifs
    · rw [List.map_tail, List.map_tail, htexts]
    · exact htexts
  refine ⟨?_, ?_, ?_, ?_⟩
  · rw [← List.length_pos_iff, hlen, List.length_pos_iff]
    exact h.tokens_ne_nil
  · rw [hpath, hlen, hns]
    exact h.outside
  · rw [hpath, hlen, hns]
    exact h.behind
  · intro hp t ht
    obtain ⟨u, hu, htext⟩ := List.mem_map.mp (hpaths ▸ List.mem_map_of_mem ht)
    rw [← htext]
    exact h.notMem_key (hpath ▸ hp) u hu

/-- A charge keeps a row sound. -/
theorem IsSound.charge (h : s.row.IsSound key) (index n : Nat) :
    (s.charge index n).row.IsSound key := by
  obtain ⟨older, t, newer, htokens, -, hcharge⟩ := s.tokens_charge index n
  refine h.of_texts ?_ (s.inPath_charge index n) (s.hasNamespace_charge index n)
  change (s.charge index n).tokens.map _ = s.tokens.map _
  rw [htokens, hcharge]
  simp [Token.charge]

/-- The namespace closes in a sound row before the path. -/
theorem IsSound.closeNamespace (h : row.IsSound key) (hpath : row.inPath = false) :
    IsSound key { row.push with inPath := true, hasNamespace := true } := by
  obtain ⟨t, ht⟩ := List.length_eq_one_iff.mp (h.outside hpath).1
  refine ⟨by simp [push], by simp, by simp [push, ht], fun _ u hu => ?_⟩
  obtain rfl : u = Token.empty := by simpa [path, push, ht] using hu
  simp [Token.empty]

/-- A token closes in the path of a sound row. -/
theorem IsSound.closeToken (h : row.IsSound key) (hpath : row.inPath = true) :
    row.push.IsSound key := by
  have hpush : row.push.path = row.path ++ [Token.empty] := by
    cases hns : row.hasNamespace with
    | false => simp [path, push, hns]
    | true => simp [path, push, hns, List.tail_append_of_ne_nil h.tokens_ne_nil]
  refine ⟨by simp [push], by simp [push, hpath], fun hns => ⟨hpath, ?_⟩, fun _ t ht => ?_⟩
  · exact (h.behind hns).2.trans (by simp [push])
  · rw [hpush, List.mem_append, List.mem_singleton] at ht
    rcases ht with ht | rfl
    · exact h.notMem_key hpath t ht
    · simp [Token.empty]

/-- The path of a sound row ends with the open token, whatever it is. -/
theorem IsSound.exists_path (h : s.row.IsSound key) :
    ∃ older, ∀ t, path ⟨s.closed ++ [t], s.inPath, s.hasNamespace⟩ = older ++ [t] := by
  cases hns : s.hasNamespace with
  | false => exact ⟨s.closed, fun _ => rfl⟩
  | true =>
    have hlen : 2 ≤ s.tokens.length := (h.behind hns).2
    have hne : s.closed ≠ [] := by
      rintro hnil
      simp [Segments.tokens, hnil] at hlen
    exact ⟨s.closed.tail, fun t => List.tail_append_of_ne_nil hne⟩

/-- The open token of a sound row receives a character, which is no separator in the path. -/
theorem IsSound.receive (h : s.row.IsSound key) {c : Char} (hc : s.inPath = true → c ≠ key)
    (width : Nat) : (s.receive c width).row.IsSound key := by
  obtain ⟨older, hpath⟩ := h.exists_path
  have hlen : (s.receive c width).tokens.length = s.tokens.length := by
    simp [Segments.tokens, Segments.receive]
  refine ⟨by simp [Segments.row, Segments.tokens], fun hout => ?_, fun hns => ?_, fun hp t ht => ?_⟩
  · exact ⟨hlen.trans (h.outside hout).1, (h.outside hout).2⟩
  · exact ⟨(h.behind hns).1, (h.behind hns).2.trans_eq hlen.symm⟩
  · have hold (u : Token) (hu : u ∈ older ++ [s.current]) : key ∉ u.text.toList :=
      h.notMem_key hp u ((hpath s.current).symm ▸ hu)
    have ht' : t ∈ older ++ [s.current.receive c width] := hpath (s.current.receive c width) ▸ ht
    rcases List.mem_append.mp ht' with ht' | ht'
    · exact hold t (List.mem_append_left _ ht')
    · have hcurrent := hold s.current (by simp)
      obtain rfl := List.mem_singleton.mp ht'
      simpa [Token.receive, hcurrent] using (hc hp).symm

/-- A character keeps a row sound if the flags allow its role. -/
theorem IsSound.advance (h : s.row.IsSound key) {c : Char} {role : Role} (width : Nat)
    (hboundary : role = .boundary → s.inPath = false)
    (hseparator : role = .separator → s.inPath = true)
    (htext : role = .text → s.inPath = true → c ≠ key) :
    (s.advance c width role).row.IsSound key := by
  cases role with
  | boundary => exact h.closeNamespace (hboundary rfl)
  | separator => exact h.closeToken (hseparator rfl)
  | swallowed => exact h
  | text => exact h.receive (htext rfl) width

end TokenRow

end MessageKeys
