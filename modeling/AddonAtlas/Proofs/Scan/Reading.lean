import AddonAtlas.Proofs.Bytes
import AddonAtlas.Scan.Basic

/-!
# Outputs read line by line

How an output arrives has no bearing on what is read of it. `Reader.left` is all that has not been
consumed, arrived or not ; asking for a line cuts its first line off it or tells that this
line is over the limit (`reads_readLine`), and a line that is discarded is the first one whatever
its length (`discardLine_eq`). So a reading goes through the lines of the whole output (`linesOf`),
and what it makes of them is said line by line (`read_eq`).
-/

namespace AddonAtlas

open Bytes (newline)

/-! ## Lines of a list -/

/-- The lines of a list, with their newlines. -/
def linesOf : List UInt8 → List (List UInt8)
  | [] => []
  | b :: t =>
    if b = newline then [b] :: linesOf t
    else
      match linesOf t with
      | [] => [[b]]
      | l :: ls => (b :: l) :: ls

/-- The first line of a list and what stands behind it. Without a newline it is all of the list. -/
inductive FirstLine : (l first rest : List UInt8) → Prop
  | ended {m rest : List UInt8} (hm : newline ∉ m) :
    FirstLine (m ++ newline :: rest) (m ++ [newline]) rest
  | last {m : List UInt8} (hm : newline ∉ m) : FirstLine m m []

theorem FirstLine.eq_append {l first rest : List UInt8} (h : FirstLine l first rest) :
    l = first ++ rest := by
  cases h <;> simp

theorem FirstLine.append {p l first rest : List UInt8} (hp : newline ∉ p)
    (h : FirstLine l first rest) : FirstLine (p ++ l) (p ++ first) rest := by
  cases h with
  | @ended m rest hm =>
    have : FirstLine ((p ++ m) ++ newline :: rest) ((p ++ m) ++ [newline]) rest :=
      .ended (by simp [hp, hm])
    simpa using this
  | last hm => exact .last (by simp [hp, hm])

theorem linesOf_of_notMem {m : List UInt8} (hm : newline ∉ m) (hne : m ≠ []) :
    linesOf m = [m] := by
  induction m with
  | nil => exact absurd rfl hne
  | cons b t ih =>
    obtain ⟨hb, ht⟩ : b ≠ newline ∧ newline ∉ t := by
      simpa [eq_comm] using hm
    cases t with
    | nil => simp [linesOf, hb]
    | cons c t =>
      rw [linesOf, if_neg hb, ih ht (List.cons_ne_nil c t)]

theorem linesOf_append {m : List UInt8} (hm : newline ∉ m) (rest : List UInt8) :
    linesOf (m ++ newline :: rest) = (m ++ [newline]) :: linesOf rest := by
  induction m with
  | nil => simp [linesOf]
  | cons b t ih =>
    obtain ⟨hb, ht⟩ : b ≠ newline ∧ newline ∉ t := by
      simpa [eq_comm] using hm
    rw [List.cons_append, linesOf, if_neg hb, ih ht]
    rfl

theorem linesOf_eq_cons {l first rest : List UInt8} (h : FirstLine l first rest) (hl : l ≠ []) :
    linesOf l = first :: linesOf rest := by
  cases h with
  | ended hm => exact linesOf_append hm rest
  | last hm => exact linesOf_of_notMem hm hl

/-- The length of a line without its newline. -/
def textLength (line : List UInt8) : Nat :=
  if line.getLast? = some newline then line.length - 1 else line.length

theorem textLength_append (m : List UInt8) : textLength (m ++ [newline]) = m.length := by
  simp [textLength]

theorem textLength_of_notMem {m : List UInt8} (hm : newline ∉ m) : textLength m = m.length := by
  rw [textLength, if_neg fun h => hm (List.mem_of_getLast? h)]

/-- If a list begins without newlines for longer than a limit, so does its first line. -/
theorem FirstLine.le_textLength {l first rest : List UInt8} {n : Nat}
    (h : FirstLine l first rest) (hn : n ≤ l.length) (hfree : newline ∉ l.take n) :
    n ≤ textLength first := by
  cases h with
  | @ended m rest hm =>
    rw [textLength_append]
    refine Nat.le_of_not_lt fun hlt => hfree ?_
    rw [List.take_append, List.mem_append]
    obtain ⟨k, hk⟩ : ∃ k, n - m.length = k + 1 := ⟨n - m.length - 1, by omega⟩
    rw [hk]
    exact .inr List.mem_cons_self
  | last hm => rwa [textLength_of_notMem hm]

namespace Reader

/-- All that has not been consumed. -/
def left (r : Reader) : List UInt8 :=
  r.buffer.toList ++ r.pending.flatMap Bytes.toList

/-- What asking for a line comes to, from what is left and the limit : the first line, if it keeps to
the limit ; that it is over the limit ; or nothing more. -/
def Reads (limit : Nat) (l : List UInt8) : LineRead × Reader → Prop
  | (.line b, r) => r.limit = limit ∧ FirstLine l b.toList r.left ∧
      ∃ m, b.toList = m ++ [newline] ∧ m.length ≤ limit
  | (.overrun n, r) => r.limit = limit ∧ r.left = l ∧ limit < n ∧ n ≤ r.buffer.size ∧
      newline ∉ l.take n
  | (.rest b, r) => r.limit = limit ∧ r.left = [] ∧ b.toList = l ∧ newline ∉ l ∧ l.length ≤ limit

theorem reads_arrived? {limit offset : Nat} {buffer : Bytes} {pending : List Bytes}
    {answer : LineRead × Reader} (hoffset : newline ∉ buffer.toList.take offset)
    (h : arrived? limit buffer offset pending = some answer) :
    Reads limit (buffer.toList ++ pending.flatMap Bytes.toList) answer := by
  unfold arrived? at h
  rw [Bytes.findIdxFrom?_newline hoffset] at h
  split at h
  · next i hi =>
    obtain ⟨hlt, hfree, hcut⟩ := Bytes.split_of_findIdx? hi
    rw [Bytes.length_toList] at hlt
    split at h <;> cases h
    · next hover =>
      refine ⟨rfl, rfl, hover, Nat.le_of_lt hlt, ?_⟩
      rwa [List.take_append_of_le_length (by simp; omega)]
    · next hover =>
      have htake : (buffer.take (i + 1)).toList = buffer.toList.take i ++ [newline] := by
        rw [Bytes.toList_take, hcut]
      have hsplit : buffer.toList ++ pending.flatMap Bytes.toList =
          buffer.toList.take i ++ newline :: left ⟨limit, buffer.drop (i + 1), pending⟩ := by
        conv => lhs; rw [← List.take_append_drop (i + 1) buffer.toList, hcut]
        simp [left]
      refine ⟨rfl, ?_, buffer.toList.take i, htake, ?_⟩
      · rw [htake, hsplit]
        exact .ended hfree
      · rw [List.length_take]
        omega
  · next hnone =>
    have hfree := Bytes.findIdx?_newline_eq_none.1 hnone
    split at h <;> cases h
    next hover =>
    refine ⟨rfl, rfl, hover, Nat.le_refl _, ?_⟩
    rwa [List.take_append_of_le_length (by simp), ← Bytes.length_toList, List.take_length]

theorem of_arrived?_eq_none {limit offset : Nat} {buffer : Bytes} {pending : List Bytes}
    (hoffset : newline ∉ buffer.toList.take offset)
    (h : arrived? limit buffer offset pending = none) :
    newline ∉ buffer.toList ∧ buffer.toList.length ≤ limit := by
  unfold arrived? at h
  rw [Bytes.findIdxFrom?_newline hoffset] at h
  split at h
  · split at h <;> cases h
  · next hnone =>
    split at h
    · cases h
    · next hle => exact ⟨Bytes.findIdx?_newline_eq_none.1 hnone, by rw [Bytes.length_toList]; omega⟩

theorem reads_readLineFrom {limit offset : Nat} {buffer : Bytes} {pending : List Bytes}
    (hoffset : newline ∉ buffer.toList.take offset) :
    Reads limit (buffer.toList ++ pending.flatMap Bytes.toList)
      (readLineFrom limit buffer offset pending) := by
  fun_induction readLineFrom limit buffer offset pending with
  | case1 buffer offset =>
    cases h : arrived? limit buffer offset [] with
    | some answer => exact reads_arrived? hoffset h
    | none =>
      obtain ⟨hfree, hle⟩ := of_arrived?_eq_none hoffset h
      simp only [List.flatMap_nil, List.append_nil, Option.getD_none]
      exact ⟨rfl, by simp [left], rfl, hfree, hle⟩
  | case2 buffer offset piece later answer h => exact reads_arrived? hoffset h
  | case3 buffer offset piece later h ih =>
    obtain ⟨hfree, -⟩ := of_arrived?_eq_none hoffset h
    have hskip : newline ∉ (buffer ++ piece).toList.take buffer.size := by
      rwa [Bytes.toList_append, List.take_append_of_le_length (by simp), ← Bytes.length_toList,
        List.take_length]
    simpa using ih hskip

theorem reads_readLine (r : Reader) : Reads r.limit r.left r.readLine :=
  reads_readLineFrom (by simp)

theorem left_skip {r : Reader} {n : Nat} (h : n ≤ r.buffer.size) :
    (r.skip n).left = r.left.drop n := by
  rw [left, left, skip, Bytes.toList_drop, List.drop_append_of_le_length (by simpa using h)]

/-- A line that is discarded is the first one, whatever its length and however it arrives. -/
theorem discardOnto_eq (count : Nat) (r : Reader) :
    ∃ first, FirstLine r.left first (discardOnto count r).2.left ∧
      (discardOnto count r).1 = count + first.length ∧
      (discardOnto count r).2.limit = r.limit := by
  fun_induction discardOnto count r with
  | case1 count r b r' h =>
    have hreads := r.reads_readLine
    rw [h] at hreads
    obtain ⟨hlimit, hfirst, -⟩ := hreads
    exact ⟨b.toList, hfirst, by rw [Bytes.length_toList], hlimit⟩
  | case2 count r n r' h ih =>
    have hreads := r.reads_readLine
    rw [h] at hreads
    obtain ⟨hlimit, hleft, -, hn, hfree⟩ := hreads
    obtain ⟨first, hfirst, hcount, hlimit'⟩ := ih
    rw [left_skip hn, hleft] at hfirst
    have hlength : (r.left.take n).length = n := by
      rw [← hleft, left, List.length_take_of_le]
      simp
      omega
    refine ⟨r.left.take n ++ first, ?_, ?_, hlimit'.trans hlimit⟩
    · have := hfirst.append hfree
      rwa [List.take_append_drop] at this
    · rw [hcount, List.length_append, hlength]
      omega
  | case3 count r b r' h =>
    have hreads := r.reads_readLine
    rw [h] at hreads
    obtain ⟨hlimit, hleft, hb, hfree, -⟩ := hreads
    refine ⟨b.toList, ?_, by rw [Bytes.length_toList], hlimit⟩
    rw [hleft, hb]
    exact .last hfree

theorem discardLine_eq (r : Reader) :
    ∃ first, FirstLine r.left first r.discardLine.2.left ∧
      r.discardLine.1 = first.length ∧ r.discardLine.2.limit = r.limit := by
  simpa [discardLine] using discardOnto_eq 0 r

end Reader

/-! ## Readings -/

theorem Hit.ofLine?_eq (b : Bytes) : Hit.ofLine? b = Hit.ofLine? (.ofList b.toList) := by
  have hcolon : b.contains colon = (Bytes.ofList b.toList).contains colon := by
    rw [Bool.eq_iff_iff, Bytes.contains_eq_true, Bytes.contains_eq_true, Bytes.toList_ofList]
  rw [Hit.ofLine?, Hit.ofLine?, hcolon, Bytes.toList_ofList]

namespace Reading

/-- The hit on a line, if the line keeps to the limit. -/
def hitOn (limit : Nat) (line : List UInt8) : Option Hit :=
  if textLength line ≤ limit then Hit.ofLine? (.ofList line) else none

/-- What a reading makes of lines, once so much is received and so many hits are found. -/
def ofLines (limit : Nat) (budget : Int) (received : Nat) (hits : List Hit) :
    List (List UInt8) → Reading
  | [] => ⟨hits.reverse, received, false⟩
  | line :: rest =>
    if budget < ((received + line.length : Nat) : Int) then
      ⟨hits.reverse, received + line.length, true⟩
    else
      ofLines limit budget (received + line.length) ((hitOn limit line).toList ++ hits) rest

section Line

variable {limit : Nat} {budget : Int} {received : Nat} {hits : List Hit} {line : List UInt8}
  {rest : List (List UInt8)} {n : Nat}

theorem ofLines_of_lt (hn : line.length = n) (h : budget < ((received + n : Nat) : Int)) :
    ofLines limit budget received hits (line :: rest) =
      ⟨hits.reverse, received + n, true⟩ := by
  subst hn
  rw [ofLines, if_pos h]

theorem ofLines_of_not_lt (hn : line.length = n) (h : ¬ budget < ((received + n : Nat) : Int)) :
    ofLines limit budget received hits (line :: rest) =
      ofLines limit budget (received + n) ((hitOn limit line).toList ++ hits) rest := by
  subst hn
  rw [ofLines, if_neg h]

end Line

/-- A line that is given out is the first one, and within the limit. -/
theorem linesOf_of_line {r r' : Reader} {b : Bytes} (h : r.readLine = (.line b, r')) :
    linesOf r.left = b.toList :: linesOf r'.left ∧ r'.limit = r.limit ∧
      hitOn r.limit b.toList = Hit.ofLine? b := by
  have hreads := r.reads_readLine
  rw [h] at hreads
  obtain ⟨hlimit, hfirst, m, hm, hle⟩ := hreads
  refine ⟨linesOf_eq_cons hfirst fun hnil => ?_, hlimit, ?_⟩
  · have := hfirst.eq_append
    simp [hnil, hm] at this
  · rw [hitOn, if_pos (by rwa [hm, textLength_append]), ← Hit.ofLine?_eq]

/-- A line that overruns the limit is the first one, and has no hit. -/
theorem linesOf_of_overrun {r r' : Reader} {n : Nat} (h : r.readLine = (.overrun n, r')) :
    ∃ line, linesOf r.left = line :: linesOf r'.discardLine.2.left ∧
      r'.discardLine.1 = line.length ∧ r'.discardLine.2.limit = r.limit ∧
      hitOn r.limit line = none := by
  have hreads := r.reads_readLine
  rw [h] at hreads
  obtain ⟨hlimit, hleft, hover, hn, hfree⟩ := hreads
  obtain ⟨line, hfirst, hcount, hlimit'⟩ := r'.discardLine_eq
  have hlength : n ≤ r.left.length := by
    rw [← hleft, Reader.left, List.length_append, Bytes.length_toList]
    omega
  rw [hleft] at hfirst
  refine ⟨line, linesOf_eq_cons hfirst fun hnil => ?_, hcount, hlimit'.trans hlimit, ?_⟩
  · rw [hnil, List.length_nil] at hlength
    omega
  · have := hfirst.le_textLength hlength hfree
    rw [hitOn, if_neg (by omega)]

/-- What is given out at the end is all that is left, and within the limit. -/
theorem linesOf_of_rest {r r' : Reader} {b : Bytes} (h : r.readLine = (.rest b, r')) :
    (b.isEmpty = true → linesOf r.left = [] ∧ b.size = 0) ∧
      (b.isEmpty = false → linesOf r.left = [b.toList]) ∧
      hitOn r.limit b.toList = Hit.ofLine? b := by
  have hreads := r.reads_readLine
  rw [h] at hreads
  obtain ⟨-, -, hb, hfree, hle⟩ := hreads
  rw [← hb] at hfree hle ⊢
  refine ⟨fun hempty => ?_, fun hempty => ?_, ?_⟩
  · rw [← Bytes.length_toList, b.isEmpty_eq_true.1 hempty]
    exact ⟨rfl, rfl⟩
  · refine linesOf_of_notMem hfree fun hnil => ?_
    rw [b.isEmpty_eq_true.2 hnil] at hempty
    cases hempty
  · rw [hitOn, if_pos (by rwa [textLength_of_notMem hfree]), ← Hit.ofLine?_eq]

/-- A reading goes through the lines of all that is left. -/
theorem readOnto_eq (budget : Int) (received : Nat) (hits : List Hit) (r : Reader) :
    readOnto budget received hits r = ofLines r.limit budget received hits (linesOf r.left) := by
  fun_induction readOnto budget received hits r with
  | case1 received hits r b r' h received' hover =>
    obtain ⟨hlines, -, -⟩ := linesOf_of_line h
    rw [hlines, ofLines_of_lt b.length_toList hover]
  | case2 received hits r b r' h received' hover ih =>
    obtain ⟨hlines, hlimit, hhit⟩ := linesOf_of_line h
    rw [ih, hlines, ofLines_of_not_lt b.length_toList hover, hlimit, hhit]
  | case3 received hits r n r' h received' hover =>
    obtain ⟨line, hlines, hcount, -, -⟩ := linesOf_of_overrun h
    rw [hlines, ofLines_of_lt hcount.symm hover]
  | case4 received hits r n r' h received' hover ih =>
    obtain ⟨line, hlines, hcount, hlimit, hhit⟩ := linesOf_of_overrun h
    rw [ih, hlines, ofLines_of_not_lt hcount.symm hover, hlimit, hhit]
    rfl
  | case5 received hits r b r' h received' hempty =>
    obtain ⟨hlines, hsize⟩ := (linesOf_of_rest h).1 hempty
    rw [hlines]
    show Reading.mk hits.reverse (received + b.size) false = _
    rw [hsize]
    rfl
  | case6 received hits r b r' h received' hempty hover =>
    obtain ⟨-, hlines, -⟩ := linesOf_of_rest h
    rw [hlines (by simpa using hempty), ofLines_of_lt b.length_toList hover]
  | case7 received hits r b r' h received' hempty hover =>
    obtain ⟨-, hlines, hhit⟩ := linesOf_of_rest h
    rw [hlines (by simpa using hempty), ofLines_of_not_lt b.length_toList hover, hhit]
    rfl

theorem read_eq (limit : Nat) (budget : Int) (arrivals : List Bytes) :
    read limit budget arrivals =
      ofLines limit budget 0 [] (linesOf (arrivals.flatMap Bytes.toList)) := by
  rw [read, readOnto_eq]
  simp [Reader.left]

/-- Within the budget, every line within the limit has its hit. -/
theorem ofLines_of_le {limit : Nat} {budget : Int} {lines : List (List UInt8)} {received : Nat}
    (hits : List Hit) (h : ((received + (lines.map List.length).sum : Nat) : Int) ≤ budget) :
    ofLines limit budget received hits lines =
      ⟨hits.reverse ++ lines.filterMap (hitOn limit), received + (lines.map List.length).sum,
        false⟩ := by
  induction lines generalizing received hits with
  | nil => simp [ofLines]
  | cons line rest ih =>
    simp only [List.map_cons, List.sum_cons] at h ⊢
    rw [ofLines_of_not_lt rfl (by omega), ih _ (by rwa [Nat.add_assoc])]
    cases hhit : hitOn limit line <;> simp [hhit, Nat.add_assoc]

end Reading

end AddonAtlas
