import Mathlib.Data.List.Basic
import Mathlib.Tactic.SplitIfs
import MessageKeys.Json.Printer
import MessageKeys.Json.Reader

/-!
# Reading what is printed

A value is printed with its items and members on lines of their own, and with some characters of its
strings escaped. It is read from this text again, whatever stands behind the text: strings character
by character, arrays and objects item by item. The depth to which the reader goes and the number of
items that it takes are bounded by the length of the text, which is enough for all that is printed.
Numbers are left out here.

## Main definitions

* `MessageKeys.Json.IsTextual` — values without numbers.
* `MessageKeys.Json.ReadsBack` — a value is read as it is printed, whatever stands behind it.

## Main results

* `MessageKeys.Json.readString_quoted` — a string is read as it is quoted.
* `MessageKeys.Json.readsBack_array`, `MessageKeys.Json.readsBack_object` — an array or object is
  read as it is printed if what is in it is.
* `MessageKeys.Json.read_pretty` — the text of a value without numbers is read as this value.
-/

namespace MessageKeys.Json

/-! ### Strings -/

theorem hexUnit?_hexDigit :
    ∀ n < 0x20, hexUnit? '0' '0' (hexDigit (n / 16)) (hexDigit n) = some n := by
  decide

/-- A control character is no part of a surrogate pair. -/
theorem Draft.addUnit_toNat (before : List Char) {c : Char} (hc : c.toNat < 0x20) :
    (Draft.mk before none true).addUnit c.toNat = ⟨c :: before, none, true⟩ := by
  have hhigh : isHighSurrogate c.toNat = false := by
    simp only [isHighSurrogate, Bool.and_eq_false_iff, decide_eq_false_iff_not]
    omega
  have hlow : isLowSurrogate c.toNat = false := by
    simp only [isLowSurrogate, Bool.and_eq_false_iff, decide_eq_false_iff_not]
    omega
  simp [addUnit, hhigh, hlow]

/-- A character that is no backslash is part of the string, unless it closes it. -/
theorem readString_cons {c : Char} (hc : c ≠ '\\') (d : Draft) (cs : List Char) :
    readString .skimming d (c :: cs) =
      if c = '"' then .ok (d.text?, cs)
      else if c.toNat < 0x20 then stopHere .controlCharacter cs
      else readString .skimming (d.add c) cs := by
  cases htext : d.text? <;> rw [readString.eq_def] <;> split <;> simp_all

/-- A character is read as it is quoted. -/
theorem readString_quotedChar (c : Char) (before cs : List Char) :
    readString .skimming ⟨before, none, true⟩ (quotedChar c ++ cs) =
      readString .skimming ⟨c :: before, none, true⟩ cs := by
  unfold quotedChar
  split
  case h_8 hquote hbackslash _ _ _ _ _ =>
    split_ifs with hc
    · simp only [List.cons_append, List.nil_append]
      rw [readString, hexUnit?_hexDigit c.toNat hc]
      simp [Draft.addUnit_toNat before hc]
    · rw [List.singleton_append, readString_cons hbackslash, if_neg hquote, if_neg hc]
      rfl
  all_goals simp [readString, escaped?, Draft.add]

/-- A string is read as it is quoted. -/
theorem readString_quoted (cs before rest : List Char) :
    readString .skimming ⟨before, none, true⟩ (cs.flatMap quotedChar ++ '"' :: rest) =
      .ok (some (String.ofList (before.reverse ++ cs)), rest) := by
  induction cs generalizing before with
  | nil => simp [readString_cons, Draft.text?]
  | cons c cs ih =>
    rw [List.flatMap_cons, List.append_assoc, readString_quotedChar, ih, List.reverse_cons,
      List.append_assoc, List.singleton_append]

theorem toList_quoted (text : String) :
    (quoted text).toList = '"' :: (text.toList.flatMap quotedChar ++ ['"']) := by
  simp [quoted]

/-! ### Blanks -/

theorem skipBlanks_cons {c : Char} (h : isBlank c = false) (cs : List Char) :
    skipBlanks (c :: cs) = c :: cs :=
  List.dropWhile_cons_of_neg (by simp [h])

/-- A new line counts for nothing. -/
theorem skipBlanks_newLine (indent : Nat) (cs : List Char) :
    skipBlanks ((newLine indent).toList ++ cs) = skipBlanks cs := by
  have hblank : ∀ c ∈ (newLine indent).toList, isBlank c = true := by
    intro c hc
    obtain rfl | ⟨-, rfl⟩ : c = '\n' ∨ 2 * indent ≠ 0 ∧ c = ' ' := by simpa [newLine] using hc
    · rfl
    · rfl
  exact List.dropWhile_append_of_pos hblank

theorem readValue_congr {cs ds : List Char} (h : skipBlanks cs = skipBlanks ds) (rigour : Rigour)
    (depth : Nat) : readValue rigour depth cs = readValue rigour depth ds := by
  cases depth <;> simp only [readValue, h]

/-! ### Items of an array -/

section Items

variable {item : List Char → Except Stop (Json × List Char)} {cs ds rest : List Char} {c d : Char}
  {value : Json} {items : List Json} {fuel : Nat}

theorem readItems_close (h : skipBlanks cs = ']' :: rest) (fuel : Nat) (first : Bool) :
    readItems item (fuel + 1) first cs = .ok ([], rest) := by
  simp [readItems, h]

theorem readItems_first (h : skipBlanks cs = c :: rest) (hc : c ≠ ']') (fuel : Nat) :
    readItems item (fuel + 1) true cs = readItems.more item fuel (c :: rest) := by
  rw [readItems, h]
  split <;> simp_all

theorem readItems_next (h : skipBlanks cs = ',' :: rest) (hrest : skipBlanks rest = d :: ds)
    (hd : d ≠ ']') (fuel : Nat) :
    readItems item (fuel + 1) false cs = readItems.more item fuel (d :: ds) := by
  rw [readItems, h]
  split
  case h_1 heq => cases heq
  case h_2 heq => exact absurd (List.cons.inj heq).1 (by decide)
  case h_3 heq =>
    obtain ⟨rfl, rfl⟩ := List.cons.inj heq
    rw [if_neg Bool.false_ne_true, if_pos rfl, hrest]
    split <;> simp_all

theorem readItems_more (hitem : item cs = .ok (value, ds))
    (hitems : readItems item fuel false ds = .ok (items, rest)) :
    readItems.more item fuel cs = .ok (value :: items, rest) := by
  simp only [readItems.more, hitem, bind, Except.bind, hitems]
  rfl

end Items

/-! ### Members of an object -/

section Members

variable {read : List Char → Except Stop (Json × List Char)} {cs ds rest : List Char} {c d : Char}
  {name : String} {value : Json} {members : List (Option String × Json)} {fuel : Nat}

theorem readMembers_close (h : skipBlanks cs = '\x7d' :: rest) (fuel : Nat) (first : Bool) :
    readMembers .skimming read (fuel + 1) first cs = .ok ([], rest) := by
  simp [readMembers, h]

theorem readMembers_first (h : skipBlanks cs = c :: rest) (hc : c ≠ '\x7d') (fuel : Nat) :
    readMembers .skimming read (fuel + 1) true cs =
      readMembers.more .skimming read fuel (c :: rest) := by
  rw [readMembers, h]
  split <;> simp_all

theorem readMembers_next (h : skipBlanks cs = ',' :: rest) (hrest : skipBlanks rest = d :: ds)
    (hd : d ≠ '\x7d') (fuel : Nat) :
    readMembers .skimming read (fuel + 1) false cs =
      readMembers.more .skimming read fuel (d :: ds) := by
  rw [readMembers, h]
  split
  case h_1 heq => cases heq
  case h_2 heq => exact absurd (List.cons.inj heq).1 (by decide)
  case h_3 heq =>
    obtain ⟨rfl, rfl⟩ := List.cons.inj heq
    rw [if_neg Bool.false_ne_true, if_pos rfl, hrest]
    split <;> simp_all

/-- A member is read as it is printed: a quoted name, a colon and the value. -/
theorem readMembers_more (hvalue : read (' ' :: cs) = .ok (value, ds))
    (hmembers : readMembers .skimming read fuel false ds = .ok (members, rest)) :
    readMembers.more .skimming read fuel ((quoted name).toList ++ ':' :: ' ' :: cs) =
      .ok ((some name, value) :: members, rest) := by
  have hname : readMembers.name .skimming ((quoted name).toList ++ ':' :: ' ' :: cs) =
      .ok (some name, ':' :: ' ' :: cs) := by
    rw [toList_quoted, List.cons_append, List.append_assoc, List.singleton_append, readMembers.name,
      Draft.start, readString_quoted]
    simp
  have hcolon : readMembers.colon (skipBlanks (':' :: ' ' :: cs)) = .ok (' ' :: cs) := by
    rw [skipBlanks_cons rfl]
    rfl
  simp only [readMembers.more, hname, bind, Except.bind, hcolon, hvalue, hmembers]
  rfl

end Members

theorem objectOf_map_some (members : List (String × Json)) :
    objectOf (members.map fun member => (some member.1, member.2)) = object members := by
  have hmapM : members.mapM (fun member => some (member.1, member.2)) = some members := by
    induction members with
    | nil => rfl
    | cons member members ih => simp [ih]
  simp only [objectOf, List.mapM_map, Function.comp_def, Option.map_some, hmapM]

/-! ### Values -/

/-- A value is read as it is printed, whatever stands behind it. -/
structure ReadsBack (value : Json) : Prop where
  /-- It is not taken for a blank or for the end of the items. -/
  starts : ∀ indent, ∃ c cs, (prettyAt indent value).toList = c :: cs ∧ isBlank c = false ∧ c ≠ ']'
  reads : ∀ indent depth rest, (prettyAt indent value).toList.length < depth →
    readValue .skimming depth ((prettyAt indent value).toList ++ rest) = .ok (value, rest)

/-- Values without numbers, in which nothing lacks a value. -/
inductive IsTextual : Json → Prop where
  | null : IsTextual null
  | bool (value : Bool) : IsTextual (bool value)
  | string (text : String) : IsTextual (string text)
  | array {items : List Json} (h : ∀ item ∈ items, IsTextual item) : IsTextual (array items)
  | object {members : List (String × Json)} (h : ∀ member ∈ members, IsTextual member.2) :
      IsTextual (object members)

section Values

variable {value : Json} {items : List Json} {members : List (String × Json)} {name : String}
  {cs rest : List Char} {depth fuel indent : Nat}

/-- Behind a new line the value is what comes next. -/
theorem ReadsBack.skipBlanks_newLine (h : ReadsBack value) (outer indent : Nat) (rest : List Char) :
    ∃ c cs, skipBlanks ((newLine outer).toList ++ ((prettyAt indent value).toList ++ rest)) =
        c :: cs ∧ c ≠ ']' ∧ c :: cs = (prettyAt indent value).toList ++ rest := by
  obtain ⟨c, cs, htext, hblank, hc⟩ := h.starts indent
  refine ⟨c, cs ++ rest, ?_, hc, by rw [htext, List.cons_append]⟩
  rw [Json.skipBlanks_newLine, htext, List.cons_append, skipBlanks_cons hblank]

theorem ReadsBack.readValue_space (h : ReadsBack value)
    (hdepth : (prettyAt indent value).toList.length < depth) (rest : List Char) :
    readValue .skimming depth (' ' :: ((prettyAt indent value).toList ++ rest)) =
      .ok (value, rest) := by
  have hblank : skipBlanks (' ' :: ((prettyAt indent value).toList ++ rest)) =
      skipBlanks ((prettyAt indent value).toList ++ rest) := rfl
  rw [readValue_congr hblank, h.reads indent depth rest hdepth]

/-! ### Arrays -/

theorem readValue_array (hdepth : depth ≠ 0)
    (h : readItems (readValue .skimming depth) (cs.length + 1) true cs = .ok (items, rest)) :
    readValue .skimming (depth + 1) ('[' :: cs) = .ok (array items, rest) := by
  rw [readValue, skipBlanks_cons rfl]
  simp only [hdepth, if_false, h, bind, Except.bind]
  rfl

/-- Further items are read as they are printed. -/
theorem readItems_prettyItems (hitems : ∀ item ∈ items, ReadsBack item)
    (hdepth : (prettyItems indent items).toList.length < depth)
    (hfuel : (prettyItems indent items).toList.length < fuel) (outer : Nat) :
    readItems (readValue .skimming depth) fuel false
      ((prettyItems indent items).toList ++ ((newLine outer).toList ++ ']' :: rest)) =
        .ok (items, rest) := by
  obtain ⟨fuel, rfl⟩ := Nat.exists_eq_succ_of_ne_zero (Nat.ne_zero_of_lt hfuel)
  induction items generalizing fuel with
  | nil =>
    refine readItems_close ?_ fuel false
    rw [prettyItems, String.toList_empty, List.nil_append, skipBlanks_newLine, skipBlanks_cons rfl]
  | cons item items ih =>
    obtain ⟨hitem, hitems⟩ := List.forall_mem_cons.mp hitems
    have htext : (prettyItems indent (item :: items)).toList =
        ',' :: ((newLine indent).toList ++
          ((prettyAt indent item).toList ++ (prettyItems indent items).toList)) := by
      simp [prettyItems]
    rw [htext] at hdepth hfuel ⊢
    simp only [List.length_cons, List.length_append] at hdepth hfuel
    simp only [List.cons_append, List.append_assoc]
    obtain ⟨c, cs, hskip, hc, hcs⟩ := hitem.skipBlanks_newLine indent indent
      ((prettyItems indent items).toList ++ ((newLine outer).toList ++ ']' :: rest))
    rw [readItems_next (skipBlanks_cons rfl _) hskip hc, hcs]
    obtain ⟨fuel, rfl⟩ : ∃ n, fuel = n + 1 := Nat.exists_eq_succ_of_ne_zero (by omega)
    exact readItems_more (hitem.reads indent depth _ (by omega))
      (ih hitems (by omega) fuel (by omega))

/-- An array is read as it is printed if its items are. -/
theorem readsBack_array (hitems : ∀ item ∈ items, ReadsBack item) : ReadsBack (array items) := by
  refine ⟨fun indent => ⟨'[', (prettyAt indent (array items)).toList.tail, ?_, rfl, by decide⟩,
    fun indent depth rest hdepth => ?_⟩
  · cases items <;> simp [prettyAt]
  obtain ⟨depth, rfl⟩ := Nat.exists_eq_succ_of_ne_zero (Nat.ne_zero_of_lt hdepth)
  cases items with
  | nil =>
    have htext : (prettyAt indent (array [])).toList = ['[', ']'] := by simp [prettyAt]
    rw [htext] at hdepth ⊢
    have hnested : depth ≠ 0 := Nat.ne_of_gt (Nat.lt_of_succ_lt (Nat.lt_of_succ_lt_succ hdepth))
    exact readValue_array hnested (readItems_close (skipBlanks_cons rfl rest) _ true)
  | cons item items =>
    obtain ⟨hitem, hitems⟩ := List.forall_mem_cons.mp hitems
    have htext : (prettyAt indent (array (item :: items))).toList ++ rest =
        '[' :: ((newLine (indent + 1)).toList ++ ((prettyAt (indent + 1) item).toList ++
          ((prettyItems (indent + 1) items).toList ++
            ((newLine indent).toList ++ ']' :: rest)))) := by
      simp [prettyAt]
    have hlength := congrArg List.length htext
    rw [htext]
    simp only [List.length_cons, List.length_append] at hlength
    refine readValue_array (by omega) ?_
    obtain ⟨c, cs, hskip, hc, hcs⟩ := hitem.skipBlanks_newLine (indent + 1) (indent + 1)
      ((prettyItems (indent + 1) items).toList ++ ((newLine indent).toList ++ ']' :: rest))
    rw [readItems_first hskip hc, hcs]
    refine readItems_more (hitem.reads (indent + 1) depth _ (by omega))
      (readItems_prettyItems hitems (by omega) ?_ indent)
    simp only [List.length_cons, List.length_append]
    omega

/-! ### Objects -/

theorem readValue_object (hdepth : depth ≠ 0)
    (h : readMembers .skimming (readValue .skimming depth) (cs.length + 1) true cs =
      .ok (members.map fun member => (some member.1, member.2), rest)) :
    readValue .skimming (depth + 1) ('\x7b' :: cs) = .ok (object members, rest) := by
  rw [readValue, skipBlanks_cons rfl]
  simp only [hdepth, if_false, h, bind, Except.bind, objectOf_map_some]
  rfl

/-- Behind a new line the quoted name is what comes next. -/
theorem skipBlanks_newLine_quoted (outer : Nat) (name : String) (rest : List Char) :
    ∃ cs, skipBlanks ((newLine outer).toList ++ ((quoted name).toList ++ rest)) = '"' :: cs ∧
      '"' :: cs = (quoted name).toList ++ rest := by
  rw [skipBlanks_newLine, toList_quoted, List.cons_append]
  exact ⟨_, skipBlanks_cons rfl _, rfl⟩

/-- Further members are read as they are printed. -/
theorem readMembers_prettyMembers (hmembers : ∀ member ∈ members, ReadsBack member.2)
    (hdepth : (prettyMembers indent members).toList.length < depth)
    (hfuel : (prettyMembers indent members).toList.length < fuel) (outer : Nat) :
    readMembers .skimming (readValue .skimming depth) fuel false
      ((prettyMembers indent members).toList ++ ((newLine outer).toList ++ '\x7d' :: rest)) =
        .ok (members.map fun member => (some member.1, member.2), rest) := by
  obtain ⟨fuel, rfl⟩ := Nat.exists_eq_succ_of_ne_zero (Nat.ne_zero_of_lt hfuel)
  induction members generalizing fuel with
  | nil =>
    refine readMembers_close ?_ fuel false
    rw [prettyMembers, String.toList_empty, List.nil_append, skipBlanks_newLine,
      skipBlanks_cons rfl]
  | cons member members ih =>
    obtain ⟨name, value⟩ := member
    obtain ⟨hvalue, hmembers⟩ := List.forall_mem_cons.mp hmembers
    change ReadsBack value at hvalue
    have htext : (prettyMembers indent ((name, value) :: members)).toList =
        ',' :: ((newLine indent).toList ++ ((quoted name).toList ++ ':' :: ' ' ::
          ((prettyAt indent value).toList ++ (prettyMembers indent members).toList))) := by
      simp [prettyMembers]
    rw [htext] at hdepth hfuel ⊢
    simp only [List.length_cons, List.length_append] at hdepth hfuel
    simp only [List.cons_append, List.append_assoc]
    obtain ⟨cs, hskip, hcs⟩ := skipBlanks_newLine_quoted indent name (':' :: ' ' ::
      ((prettyAt indent value).toList ++
        ((prettyMembers indent members).toList ++ ((newLine outer).toList ++ '\x7d' :: rest))))
    rw [readMembers_next (skipBlanks_cons rfl _) hskip (by decide), hcs]
    obtain ⟨fuel, rfl⟩ : ∃ n, fuel = n + 1 := Nat.exists_eq_succ_of_ne_zero (by omega)
    exact readMembers_more (hvalue.readValue_space (by omega) _)
      (ih hmembers (by omega) fuel (by omega))

/-- An object is read as it is printed if the values of its members are. -/
theorem readsBack_object (hmembers : ∀ member ∈ members, ReadsBack member.2) :
    ReadsBack (object members) := by
  refine ⟨fun indent => ⟨'\x7b', (prettyAt indent (object members)).toList.tail, ?_, rfl,
    by decide⟩, fun indent depth rest hdepth => ?_⟩
  · cases members <;> simp [prettyAt]
  obtain ⟨depth, rfl⟩ := Nat.exists_eq_succ_of_ne_zero (Nat.ne_zero_of_lt hdepth)
  cases members with
  | nil =>
    have htext : (prettyAt indent (object [])).toList = ['\x7b', '\x7d'] := by simp [prettyAt]
    have hclose : skipBlanks ('\x7d' :: rest) = '\x7d' :: rest := skipBlanks_cons rfl rest
    rw [htext] at hdepth ⊢
    have hnested : depth ≠ 0 := Nat.ne_of_gt (Nat.lt_of_succ_lt (Nat.lt_of_succ_lt_succ hdepth))
    exact readValue_object hnested (readMembers_close hclose _ true)
  | cons member members =>
    obtain ⟨name, value⟩ := member
    obtain ⟨hvalue, hmembers⟩ := List.forall_mem_cons.mp hmembers
    change ReadsBack value at hvalue
    have htext : (prettyAt indent (object ((name, value) :: members))).toList ++ rest =
        '\x7b' :: ((newLine (indent + 1)).toList ++ ((quoted name).toList ++ ':' :: ' ' ::
          ((prettyAt (indent + 1) value).toList ++ ((prettyMembers (indent + 1) members).toList ++
            ((newLine indent).toList ++ '\x7d' :: rest))))) := by
      simp [prettyAt]
    have hlength := congrArg List.length htext
    rw [htext]
    simp only [List.length_cons, List.length_append] at hlength
    refine readValue_object (by omega) ?_
    obtain ⟨cs, hskip, hcs⟩ := skipBlanks_newLine_quoted (indent + 1) name (':' :: ' ' ::
      ((prettyAt (indent + 1) value).toList ++ ((prettyMembers (indent + 1) members).toList ++
        ((newLine indent).toList ++ '\x7d' :: rest))))
    rw [readMembers_first hskip (by decide), hcs]
    refine readMembers_more (hvalue.readValue_space (by omega) _)
      (readMembers_prettyMembers hmembers (by omega) ?_ indent)
    simp only [List.length_cons, List.length_append]
    omega

/-! ### Whole texts -/

theorem readWord_append (value : Json) (word rest : List Char) :
    readWord value word (word ++ rest) = .ok (value, rest) := by
  induction word with
  | nil => rfl
  | cons c word ih => rw [List.cons_append, readWord, if_pos rfl, ih]

/-- A value whose first character says what it is is read as it is printed if what is behind it
is. -/
theorem readsBack_of_starts {c : Char} {others : List Char}
    (htext : ∀ indent, (prettyAt indent value).toList = c :: others) (hblank : isBlank c = false)
    (hc : c ≠ ']')
    (hread : ∀ depth rest, readValue .skimming (depth + 1) (c :: (others ++ rest)) =
      .ok (value, rest)) : ReadsBack value := by
  refine ⟨fun indent => ⟨c, others, htext indent, hblank, hc⟩, fun indent depth rest hdepth => ?_⟩
  obtain ⟨depth, rfl⟩ := Nat.exists_eq_succ_of_ne_zero (Nat.ne_zero_of_lt hdepth)
  rw [htext, List.cons_append]
  exact hread depth rest

theorem readsBack_null : ReadsBack null := by
  have htext (indent : Nat) : (prettyAt indent null).toList = 'n' :: ['u', 'l', 'l'] := by
    simp [prettyAt]
  refine readsBack_of_starts htext rfl (by decide) fun depth rest => ?_
  rw [readValue, skipBlanks_cons rfl]
  exact readWord_append ..

theorem readsBack_bool (b : Bool) : ReadsBack (bool b) := by
  cases b with
  | false =>
    have htext (indent : Nat) :
        (prettyAt indent (bool false)).toList = 'f' :: ['a', 'l', 's', 'e'] := by
      simp [prettyAt]
    refine readsBack_of_starts htext rfl (by decide) fun depth rest => ?_
    rw [readValue, skipBlanks_cons rfl]
    exact readWord_append ..
  | true =>
    have htext (indent : Nat) : (prettyAt indent (bool true)).toList = 't' :: ['r', 'u', 'e'] := by
      simp [prettyAt]
    refine readsBack_of_starts htext rfl (by decide) fun depth rest => ?_
    rw [readValue, skipBlanks_cons rfl]
    exact readWord_append ..

theorem readsBack_string (text : String) : ReadsBack (string text) := by
  have htext (indent : Nat) : (prettyAt indent (string text)).toList =
      '"' :: (text.toList.flatMap quotedChar ++ ['"']) := by
    rw [prettyAt, toList_quoted]
  refine readsBack_of_starts htext rfl (by decide) fun depth rest => ?_
  rw [readValue, skipBlanks_cons rfl]
  simp only [List.append_assoc, List.singleton_append, Draft.start, readString_quoted, bind,
    Except.bind, List.reverse_nil, List.nil_append, String.ofList_toList]
  rfl

/-- Values without numbers are read as they are printed. -/
theorem IsTextual.readsBack (h : IsTextual value) : ReadsBack value := by
  induction h with
  | null => exact readsBack_null
  | bool b => exact readsBack_bool b
  | string text => exact readsBack_string text
  | array _ ih => exact readsBack_array ih
  | object _ ih => exact readsBack_object ih

/-- The text of a value without numbers is read as this value. -/
theorem read_pretty (h : IsTextual value) : read .skimming value.pretty = .ok value := by
  have hread := h.readsBack.reads 0 (value.pretty.toList.length + 2) [] (by simp [pretty])
  rw [List.append_nil] at hread
  change readValue .skimming _ value.pretty.toList = _ at hread
  have hall : readAll .skimming value.pretty.toList = .ok value := by
    rw [readAll, Rigour.depth, hread]
    rfl
  rw [read, hall]
  rfl

end Values

end MessageKeys.Json
