import AddonAtlas.FileTree.ReadBuffer
import AddonAtlas.Proofs.Regex.Meaning
import AddonAtlas.Proofs.Text.Utf8
import AddonAtlas.Regex.Extended
import AddonAtlas.Scan.Reader

/-!
# Spans as lists

What the operations on spans do to the lists of their bytes (`Bytes.toList`). The lines of a span
are parts of it between newlines (`isLine_of_mem_lines`), and what is searched of a file with a NUL
are some of its lines, from the first one on (`exists_beforeNul`).
-/

namespace AddonAtlas.Bytes

variable (b : Bytes)

@[simp] theorem length_toList : b.toList.length = b.size := by
  rw [toList, Array.length_toList]
  exact b.size_toByteArray

@[simp] theorem toList_ofByteArray (a : ByteArray) : (ofByteArray a).toList = a.data.toList := by
  simp [toList, toByteArray, ofByteArray]

@[simp] theorem toList_ofList (l : List UInt8) : (ofList l).toList = l := by
  simp [ofList]

@[simp] theorem toList_empty : empty.toList = [] := by
  simp [empty]

@[simp] theorem toList_ofString (s : String) : (ofString s).toList = Utf8.encode s.toList := by
  rw [ofString, toList_ofByteArray, String.toUTF8_eq_toByteArray, ← String.utf8Encode_toList,
    List.utf8Encode, List.toList_data_toByteArray]
  rfl

theorem newline_mem_encode {cs : List Char} : newline ∈ Utf8.encode cs ↔ '\n' ∈ cs :=
  Utf8.byte_mem_encode (c := '\n') (by decide)

theorem isEmpty_eq_true : b.isEmpty = true ↔ b.toList = [] := by
  have := b.start_le_stop
  rw [← List.length_eq_zero_iff, length_toList, isEmpty, beq_iff_eq, size]
  omega

@[simp] theorem toList_take (n : Nat) : (b.take n).toList = b.toList.take n := by
  have := b.start_le_stop
  rw [toList_eq, toList_eq, List.take_take]
  simp only [take]
  congr 1
  omega

@[simp] theorem toList_drop (n : Nat) : (b.drop n).toList = b.toList.drop n := by
  rw [toList_eq, toList_eq, List.drop_take, List.drop_drop]
  simp only [drop]
  rcases Nat.le_total (b.start + n) b.stop with h | h
  · rw [Nat.min_eq_left h, Nat.sub_add_eq]
  · rw [Nat.min_eq_right h, Nat.sub_self, Nat.sub_sub, Nat.sub_eq_zero_of_le h, List.take_zero,
      List.take_zero]

@[simp] theorem toList_append (a b : Bytes) : (a ++ b).toList = a.toList ++ b.toList := by
  show (append a b).toList = _
  unfold append
  split
  · next h => rw [a.isEmpty_eq_true.1 h, List.nil_append]
  · split
    · next h => rw [b.isEmpty_eq_true.1 h, List.append_nil]
    · rw [toList_ofByteArray, ByteArray.toList_data_append]
      rfl

theorem toList_concat (parts : List Bytes) : (concat parts).toList = parts.flatMap toList := by
  have fold : ∀ (ps : List Bytes) (a : ByteArray),
      (ps.foldl (fun acc b => acc ++ b.toByteArray) a).data.toList =
        a.data.toList ++ ps.flatMap toList := by
    intro ps
    induction ps with
    | nil => simp
    | cons p ps ih =>
      intro a
      rw [List.foldl_cons, ih, ByteArray.toList_data_append, List.flatMap_cons, List.append_assoc]
      rfl
  unfold concat
  split
  · simp
  · simp
  · rw [toList_ofByteArray, fold]
    simp

/-! ## Bytes by their index -/

theorem get?_eq (i : Nat) : b.get? i = b.toList[i]? := by
  have := b.stop_le_size
  rw [toList_eq, List.getElem?_take, List.getElem?_drop, get?]
  by_cases h : b.start + i < b.stop
  · rw [dif_pos h, if_pos (by omega)]
    rw [Array.getElem?_toList]
    exact (Array.getElem?_eq_getElem _).symm
  · rw [dif_neg h, if_neg (by omega)]

theorem word_eq : b.word = Word.ofList b.toList := by
  simp [word, Word.ofList, funext b.get?_eq]

theorem findIdxFrom?_eq (p : UInt8 → Bool) (i : Nat) :
    b.findIdxFrom? p i = ((b.toList.drop i).findIdx? p).map (i + ·) := by
  fun_induction findIdxFrom? b p i with
  | case1 i h hp =>
    have hget := b.get?_eq i
    rw [get?, dif_pos h] at hget
    obtain ⟨hi, he⟩ := List.getElem?_eq_some_iff.1 hget.symm
    rw [List.drop_eq_getElem_cons hi, he, List.findIdx?_cons, if_pos hp]
    rfl
  | case2 i h hp ih =>
    have hget := b.get?_eq i
    rw [get?, dif_pos h] at hget
    obtain ⟨hi, he⟩ := List.getElem?_eq_some_iff.1 hget.symm
    rw [List.drop_eq_getElem_cons hi, he, List.findIdx?_cons, if_neg hp, ih, Option.map_map]
    congr 1
    funext n
    show i + 1 + n = i + (n + 1)
    omega
  | case3 i h =>
    have hle : b.toList.length ≤ i := by
      rw [length_toList, size]
      omega
    rw [List.drop_eq_nil_of_le hle]
    rfl

theorem newlineIdx?_eq : b.newlineIdx? = b.toList.findIdx? (· == newline) := by
  rw [newlineIdx?, findIdxFrom?_eq, List.drop_zero]
  simp

theorem contains_eq_true (c : UInt8) : b.contains c = true ↔ c ∈ b.toList := by
  rw [contains, findIdxFrom?_eq, List.drop_zero, Option.isSome_map, List.findIdx?_isSome,
    List.any_beq']
  simp

/-! ## Lines -/

/-- The first newline of a list cuts it. -/
theorem split_of_findIdx? {l : List UInt8} {i : Nat} (h : l.findIdx? (· == newline) = some i) :
    i < l.length ∧ newline ∉ l.take i ∧ l.take (i + 1) = l.take i ++ [newline] := by
  obtain ⟨hlt, hnl, hfree⟩ := List.findIdx?_eq_some_iff_getElem.1 h
  refine ⟨hlt, fun hmem => ?_, ?_⟩
  · obtain ⟨j, hj, he⟩ := List.mem_take_iff_getElem.1 hmem
    exact absurd (beq_iff_eq.2 he) (hfree j (by omega))
  · rw [List.take_add_one, List.getElem?_eq_getElem hlt, eq_of_beq hnl]
    rfl

theorem findIdx?_newline_eq_none {l : List UInt8} :
    l.findIdx? (· == newline) = none ↔ newline ∉ l := by
  rw [List.findIdx?_eq_none_iff]
  exact ⟨fun h hmem => by simpa using h newline hmem,
    fun h x hx => beq_false_of_ne fun he => h (he ▸ hx)⟩

/-- The search for a newline may skip bytes that are known to hold none. -/
theorem findIdxFrom?_newline {b : Bytes} {offset : Nat} (h : newline ∉ b.toList.take offset) :
    b.findIdxFrom? (· == newline) offset = b.toList.findIdx? (· == newline) := by
  have hnone := findIdx?_newline_eq_none.2 h
  conv => rhs; rw [← List.take_append_drop offset b.toList]
  rw [findIdxFrom?_eq, List.findIdx?_append, hnone, Option.none_or]
  rcases Nat.le_total offset b.toList.length with hle | hle
  · rw [List.length_take_of_le hle]
    simp only [Nat.add_comm]
  · rw [List.drop_eq_nil_of_le hle]
    rfl

theorem linesOnto_eq (acc : List Bytes) (b : Bytes) :
    linesOnto acc b = acc.reverse ++ b.lines := by
  rw [lines]
  induction hn : b.size using Nat.strongRecOn generalizing acc b with
  | _ n ih =>
    subst hn
    rw [linesOnto, linesOnto]
    split
    · next hpos =>
      split
      · next i _ =>
        have hlt := b.size_drop_lt (i + 1) (Nat.succ_pos i) hpos
        rw [ih _ hlt (b.take i :: acc) _ rfl, ih _ hlt [b.take i] _ rfl]
        simp
      · simp
    · simp

/-- A list of whole lines : it ends with a newline, if it is not empty. -/
def Ended (l : List UInt8) : Prop :=
  l = [] ∨ ∃ s, l = s ++ [newline]

/-- Whole lines without their first byte are whole lines, if anything is left. -/
theorem Ended.cons {b : UInt8} {t : List UInt8} (h : Ended (b :: t)) :
    b = newline ∧ t = [] ∨ t ≠ [] ∧ Ended t := by
  rcases h with h | ⟨s, hs⟩
  · cases h
  · cases s with
    | nil =>
      obtain ⟨rfl, rfl⟩ := List.cons.inj hs
      exact .inl ⟨rfl, rfl⟩
    | cons c s =>
      obtain ⟨rfl, rfl⟩ := List.cons.inj hs
      exact .inr ⟨by simp, .inr ⟨s, rfl⟩⟩

/-- The line of a number in a list : it has no newline, it stands between newlines or ends, and
as many newlines stand before it. -/
structure LineAt (l : List UInt8) (i : Nat) (before m after : List UInt8) : Prop where
  split : l = before ++ (m ++ after)
  free : newline ∉ m
  begins : Ended before
  ends : after = [] ∨ ∃ t, after = newline :: t
  count : before.count newline = i

variable {b}

/-- The first newline ends the first line. -/
theorem lines_of_newline {m rest : List UInt8} (hm : newline ∉ m)
    (h : b.toList = m ++ newline :: rest) :
    ∃ x b', b.lines = x :: lines b' ∧ x.toList = m ∧ b'.toList = rest := by
  have hsize : b.size = m.length + (rest.length + 1) := by
    rw [← length_toList, h, List.length_append, List.length_cons]
  have hidx : b.newlineIdx? = some m.length := by
    rw [newlineIdx?_eq, h, List.findIdx?_append, findIdx?_newline_eq_none.2 hm, Option.none_or]
    simp [List.findIdx?_cons]
  refine ⟨b.take m.length, b.drop (m.length + 1), ?_, by rw [toList_take, h, List.take_left], ?_⟩
  · rw [lines, linesOnto, dif_pos (by omega), hidx]
    exact linesOnto_eq [b.take m.length] _
  · rw [toList_drop, h, List.drop_append]
    simp

/-- Without a newline there is one line, or none. -/
theorem lines_of_notMem (h : newline ∉ b.toList) :
    b.lines = if b.toList = [] then [] else [b] := by
  have hidx : b.newlineIdx? = none := by
    rw [newlineIdx?_eq, findIdx?_newline_eq_none.2 h]
  have hsize : 0 < b.size ↔ b.toList ≠ [] := by
    rw [← length_toList, List.length_pos_iff]
  rw [lines, linesOnto, hidx]
  by_cases hnil : b.toList = [] <;> simp [hsize, hnil]

theorem exists_lineAt {i : Nat} {x : Bytes} (h : b.lines[i]? = some x) :
    ∃ before after, LineAt b.toList i before x.toList after := by
  induction hn : b.size using Nat.strongRecOn generalizing b i with
  | _ n ih =>
    subst hn
    by_cases hfree : newline ∈ b.toList
    · obtain ⟨m, rest, hsplit, hm⟩ := List.eq_append_cons_of_mem hfree
      obtain ⟨y, b', hlines, rfl, rfl⟩ := lines_of_newline hm hsplit
      rw [hlines] at h
      rw [hsplit]
      cases i with
      | zero =>
        obtain rfl : y = x := by simpa using h
        exact ⟨[], _, rfl, hm, .inl rfl, .inr ⟨_, rfl⟩, rfl⟩
      | succ i =>
        have hlt : b'.size < b.size := by
          rw [← length_toList, ← b.length_toList, hsplit, List.length_append, List.length_cons]
          omega
        obtain ⟨before, after, hline⟩ := ih _ hlt (by simpa using h) rfl
        refine ⟨y.toList ++ newline :: before, after, ?_, hline.free, .inr ?_, hline.ends, ?_⟩
        · conv => lhs; rw [hline.split]
          simp
        · rcases hline.begins with rfl | ⟨s, rfl⟩
          · exact ⟨_, rfl⟩
          · exact ⟨y.toList ++ newline :: s, by simp⟩
        · rw [List.count_append, List.count_cons_self, List.count_eq_zero_of_not_mem hm,
            hline.count, Nat.zero_add]
    · rw [lines_of_notMem hfree] at h
      split at h
      · simp at h
      · obtain ⟨rfl, rfl⟩ : i = 0 ∧ b = x := by
          cases i with
          | zero => exact ⟨rfl, by simpa using h⟩
          | succ i => simp at h
        exact ⟨[], [], by simp, hfree, .inl rfl, .inl rfl, rfl⟩

/-- A part of a list between newlines, or between a newline and an end. -/
structure IsLine (l m : List UInt8) : Prop where
  free : newline ∉ m
  between : ∃ s t, l = s ++ (m ++ t) ∧ (s = [] ∨ ∃ s', s = s' ++ [newline]) ∧
    (t = [] ∨ ∃ t', t = newline :: t')

theorem isLine_of_mem_lines {x : Bytes} (h : x ∈ b.lines) : IsLine b.toList x.toList := by
  obtain ⟨i, hi⟩ := List.getElem?_of_mem h
  obtain ⟨before, after, hline⟩ := exists_lineAt hi
  exact ⟨hline.free, before, after, hline.split, hline.begins, hline.ends⟩

/-- A text of one line has this line. -/
theorem exists_lines_eq {m : List UInt8} (hm : newline ∉ m) (h : b.toList = m ++ [newline]) :
    ∃ line, b.lines = [line] ∧ line.toList = m := by
  obtain ⟨line, b', hlines, hline, hb'⟩ := lines_of_newline hm h
  refine ⟨line, ?_, hline⟩
  rw [hlines, lines_of_notMem (by rw [hb']; exact List.not_mem_nil), if_pos hb']

/-! ## Files with a NUL -/

/-- A file without a NUL is searched as a whole. -/
theorem beforeNul_eq_self (h : 0 ∉ b.toList) : b.beforeNul = b := by
  rw [beforeNul, if_neg fun hmem => h ((contains_eq_true b 0).1 hmem)]

/-- A line begins at an index. -/
def LineStart (b : Bytes) (n : Nat) : Prop :=
  n = 0 ∨ ∃ k, n = k + 1 ∧ b.get? k = some newline

theorem lineStart_lineEndBefore (i : Nat) : b.LineStart (b.lineEndBefore newline i) := by
  induction i with
  | zero => exact .inl rfl
  | succ i ih =>
    rw [lineEndBefore]
    split
    · next h => exact .inr ⟨i, rfl, eq_of_beq h⟩
    · exact ih

theorem beforeNulFrom_eq {fuel : Nat} {buffer : ReadBuffer} {done searched : Nat}
    (h : b.LineStart searched) :
    b.beforeNulFrom fuel buffer done searched = b ∨
      ∃ n, b.LineStart n ∧ b.beforeNulFrom fuel buffer done searched = b.take n := by
  induction fuel generalizing buffer done searched with
  | zero => exact .inl rfl
  | succ fuel ih =>
    simp only [beforeNulFrom]
    split
    · exact .inl rfl
    · split
      · exact .inr ⟨searched, h, rfl⟩
      · exact ih (lineStart_lineEndBefore _)

/-- What is searched of a file is all of it, or ends with one of its lines. -/
theorem exists_beforeNul (b : Bytes) : ∃ t, b.toList = b.beforeNul.toList ++ t ∧
    (t = [] ∨ b.beforeNul.toList = [] ∨ ∃ s, b.beforeNul.toList = s ++ [newline]) := by
  have cut : b.beforeNul = b ∨ ∃ n, b.LineStart n ∧ b.beforeNul = b.take n := by
    unfold beforeNul
    split
    · exact beforeNulFrom_eq (.inl rfl)
    · exact .inl rfl
  rcases cut with h | ⟨n, hn, h⟩
  · exact ⟨[], by rw [h, List.append_nil], .inl rfl⟩
  · rw [h, toList_take]
    refine ⟨b.toList.drop n, (List.take_append_drop n b.toList).symm, .inr ?_⟩
    rcases hn with rfl | ⟨k, rfl, hk⟩
    · exact .inl List.take_zero
    · rw [get?_eq] at hk
      exact .inr ⟨b.toList.take k, by rw [List.take_add_one, hk]; rfl⟩

/-- A line of what is searched of a file is a line of the file. -/
theorem exists_lineAt_of_beforeNul {x : Bytes} {i : Nat} (h : b.beforeNul.lines[i]? = some x)
    (hne : x.toList ≠ []) : ∃ before after, LineAt b.toList i before x.toList after := by
  obtain ⟨t, hsplit, hcut⟩ := b.exists_beforeNul
  obtain ⟨before, after, hat⟩ := exists_lineAt h
  have hafter : after ++ t = [] ∨ ∃ rest, after ++ t = newline :: rest := by
    rcases hat.ends with rfl | ⟨rest, rfl⟩
    · have hwhole : b.beforeNul.toList = before ++ x.toList := by simpa using hat.split
      rcases hcut with rfl | hnil | ⟨s, hs⟩
      · exact .inl rfl
      · simp [hnil, hne] at hwhole
      · -- the newline at the end would be the line's own
        obtain ⟨ys, c, hx⟩ := (List.eq_nil_or_concat x.toList).resolve_left hne
        rw [List.concat_eq_append] at hx
        rw [hs, hx, ← List.append_assoc] at hwhole
        obtain rfl : newline = c := by simpa using (List.append_inj' hwhole rfl).2
        exact absurd (hx ▸ List.mem_append_cons_self) hat.free
    · exact .inr ⟨rest ++ t, rfl⟩
  refine ⟨before, after ++ t, ?_, hat.free, hat.begins, hafter, hat.count⟩
  rw [hsplit, hat.split, List.append_assoc, List.append_assoc]

end AddonAtlas.Bytes
