import AddonAtlas.Proofs.Scan.Output

/-!
# Lines over the limit

Whether a line is over the limit of a reader is a matter of its length, not of how it arrives : how
much of it is known when this is noticed may differ, but nothing is consumed
(`Reader.readLine_of_lt`). A line that keeps to the limit is given out whole
(`Reader.readLine_of_le`).

A line over the limit is discarded overrun by overrun : the bytes that are known are taken, and the
rest of the line is asked for, which may overrun again (`Reader.discardKnown`). What is taken by then
is exactly that line, with its newline if it has one, so the reader stands in front of the next one
(`Reader.discardLine_of_overrun`).
-/

namespace AddonAtlas

open Bytes (newline)

/-! ## First lines -/

theorem exists_firstLine (l : List UInt8) : ∃ first rest, FirstLine l first rest := by
  by_cases h : newline ∈ l
  · obtain ⟨m, rest, rfl, hm⟩ := List.eq_append_cons_of_mem h
    exact ⟨_, _, .ended hm⟩
  · exact ⟨_, _, .last h⟩

/-- A list has one first line. -/
theorem FirstLine.unique {l first rest first' rest' : List UInt8} (h : FirstLine l first rest)
    (h' : FirstLine l first' rest') : first = first' ∧ rest = rest' := by
  by_cases hl : l = []
  · have hnil := h.eq_append
    have hnil' := h'.eq_append
    rw [hl] at hnil hnil'
    obtain ⟨rfl, rfl⟩ := List.append_eq_nil_iff.1 hnil.symm
    obtain ⟨rfl, rfl⟩ := List.append_eq_nil_iff.1 hnil'.symm
    exact ⟨rfl, rfl⟩
  · obtain ⟨rfl, -⟩ := List.cons.inj ((linesOf_eq_cons h hl).symm.trans (linesOf_eq_cons h' hl))
    exact ⟨rfl, List.append_cancel_left (h.eq_append.symm.trans h'.eq_append)⟩

/-- A first line without a newline is all there is. -/
theorem FirstLine.rest_eq_nil {l first rest : List UInt8} (h : FirstLine l first rest)
    (hfree : newline ∉ l) : first = l ∧ rest = [] := by
  obtain ⟨rfl, rfl⟩ := h.unique (.last hfree)
  exact ⟨rfl, rfl⟩

/-- What is given out when a line is asked for ; nothing if it is over the limit. -/
def LineRead.given? : LineRead → Option Bytes
  | .line b => some b
  | .overrun _ => none
  | .rest b => some b

namespace Reader

variable {r r' : Reader} {first rest : List UInt8}

/-! ## Asking for a line -/

/-- A line that keeps to the limit is given out whole. -/
theorem readLine_of_le (h : FirstLine r.left first rest) (hle : textLength first ≤ r.limit) :
    ∃ b, r.readLine.1.given? = some b ∧ b.toList = first ∧ r.readLine.2.left = rest ∧
      r.readLine.2.limit = r.limit := by
  have hreads := r.reads_readLine
  cases hline : r.readLine with
  | mk answer r' =>
    rw [hline] at hreads
    cases answer with
    | line b =>
      obtain ⟨hlimit, hfirst, -⟩ := hreads
      obtain ⟨rfl, rfl⟩ := h.unique hfirst
      exact ⟨b, rfl, rfl, rfl, hlimit⟩
    | overrun n =>
      obtain ⟨-, hleft, hover, hn, hfree⟩ := hreads
      have hlength : n ≤ r.left.length := by
        rw [← hleft, left, List.length_append, Bytes.length_toList]
        omega
      have := h.le_textLength hlength hfree
      omega
    | rest b =>
      obtain ⟨hlimit, hleft, hb, hfree, -⟩ := hreads
      obtain ⟨rfl, rfl⟩ := h.rest_eq_nil hfree
      exact ⟨b, rfl, hb, hleft, hlimit⟩

/-- A line that does not is told to be over the limit, and nothing of it is consumed. -/
theorem readLine_of_lt (h : FirstLine r.left first rest) (hlt : r.limit < textLength first) :
    ∃ n r', r.readLine = (.overrun n, r') ∧ r'.left = r.left ∧ r'.limit = r.limit := by
  have hreads := r.reads_readLine
  cases hline : r.readLine with
  | mk answer r' =>
    rw [hline] at hreads
    cases answer with
    | line b =>
      obtain ⟨-, hfirst, m, hm, hle⟩ := hreads
      obtain ⟨rfl, -⟩ := h.unique hfirst
      rw [hm, textLength_append] at hlt
      omega
    | overrun n => exact ⟨n, r', rfl, hreads.2.1, hreads.1⟩
    | rest b =>
      obtain ⟨-, -, -, hfree, hle⟩ := hreads
      obtain ⟨rfl, -⟩ := h.rest_eq_nil hfree
      rw [textLength_of_notMem hfree] at hlt
      omega

theorem lt_textLength_of_overrun {n : Nat} (hover : r.readLine = (.overrun n, r'))
    (h : FirstLine r.left first rest) : r.limit < textLength first := by
  refine Nat.lt_of_not_le fun hle => ?_
  obtain ⟨b, hgiven, -⟩ := readLine_of_le h hle
  rw [hover] at hgiven
  cases hgiven

/-- Bytes that are known to hold no newline need not be looked at again. -/
theorem arrived?_of_notMem {limit offset : Nat} {buffer : Bytes} {pending : List Bytes}
    (hoffset : newline ∉ buffer.toList.take offset) :
    arrived? limit buffer offset pending = arrived? limit buffer 0 pending := by
  rw [arrived?, arrived?, Bytes.findIdxFrom?_newline hoffset, Bytes.findIdxFrom?_newline (by simp)]

theorem readLineFrom_of_arrived? {limit offset : Nat} {buffer : Bytes} {pending : List Bytes}
    {answer : LineRead × Reader} (h : arrived? limit buffer offset pending = some answer) :
    readLineFrom limit buffer offset pending = answer := by
  cases pending with
  | nil => rw [readLineFrom, h, Option.getD_some]
  | cons piece later => rw [readLineFrom, h]

theorem arrived?_of_overrun {limit offset n : Nat} {buffer : Bytes} {pending : List Bytes}
    (h : arrived? limit buffer offset pending = some (.overrun n, r')) :
    r' = ⟨limit, buffer, pending⟩ := by
  unfold arrived? at h
  split at h <;> split at h <;> cases h <;> rfl

/-- After an overrun, asking again comes to the same overrun. -/
theorem readLineFrom_of_overrun {limit offset n : Nat} {buffer : Bytes} {pending : List Bytes}
    (hoffset : newline ∉ buffer.toList.take offset)
    (h : readLineFrom limit buffer offset pending = (.overrun n, r')) :
    r'.readLine = (.overrun n, r') := by
  have answered : ∀ {buffer offset pending}, newline ∉ (Bytes.toList buffer).take offset →
      arrived? limit buffer offset pending = some (.overrun n, r') →
      r'.readLine = (.overrun n, r') := by
    intro buffer offset pending hoffset harrived
    obtain rfl := arrived?_of_overrun harrived
    rw [arrived?_of_notMem hoffset] at harrived
    exact readLineFrom_of_arrived? harrived
  fun_induction readLineFrom limit buffer offset pending with
  | case1 buffer offset =>
    cases harrived : arrived? limit buffer offset [] with
    | none =>
      rw [harrived] at h
      cases h
    | some answer =>
      rw [harrived] at h
      obtain rfl : answer = _ := h
      exact answered hoffset harrived
  | case2 buffer offset piece later answer harrived => exact answered hoffset (h ▸ harrived)
  | case3 buffer offset piece later harrived ih =>
    obtain ⟨hfree, -⟩ := of_arrived?_eq_none hoffset harrived
    refine ih ?_ h
    rwa [Bytes.toList_append, List.take_append_of_le_length (by simp), ← Bytes.length_toList,
      List.take_length]

theorem readLine_of_overrun {n : Nat} (h : r.readLine = (.overrun n, r')) :
    r'.readLine = (.overrun n, r') :=
  readLineFrom_of_overrun (by simp) h

/-! ## Overrun by overrun -/

/-- Asks for a number of bytes, of which `buffer` has arrived. There are fewer if the output ends
before. -/
def readBytesFrom (limit count : Nat) (buffer : Bytes) : List Bytes → Bytes × Reader
  | [] => (buffer.take count, ⟨limit, buffer.drop count, []⟩)
  | piece :: later =>
    if count ≤ buffer.size then (buffer.take count, ⟨limit, buffer.drop count, piece :: later⟩)
    else readBytesFrom limit count (buffer ++ piece) later

/-- Asks for a number of bytes. -/
def readBytes (count : Nat) (r : Reader) : Bytes × Reader :=
  readBytesFrom r.limit count r.buffer r.pending

/-- Bytes that have arrived are given out at once. -/
theorem readBytes_of_le {count : Nat} (h : count ≤ r.buffer.size) :
    r.readBytes count = (r.buffer.take count, r.skip count) := by
  obtain ⟨limit, buffer, pending⟩ := r
  cases pending with
  | nil => rfl
  | cons piece later => exact if_pos h

/-- Takes the bytes of a line that are known, and then the rest of the line, of which more may be
known only by another overrun. The bytes are counted onto `count`. -/
def discardKnown (count known : Nat) (r : Reader) : Nat × Reader :=
  match _h : r.readBytes known with
  | (b, r') =>
    if b.size < known then (count + b.size, r')
    else
      match _h' : r'.readLine with
      | (.line l, r'') => (count + b.size + l.size, r'')
      | (.overrun n, r'') => discardKnown (count + b.size) n r''
      | (.rest l, r'') => (count + b.size + l.size, r'')
termination_by (r.readBytes known).2.remaining
decreasing_by
  have h₁ := readLine_overrun _h'
  have h₂ := remaining_skip h₁.2.1
  rw [readBytes_of_le h₁.2.1, _h]
  simp only
  omega

section Unfolding

variable {count known n : Nat} {l : Bytes}

/-- Bytes that have arrived are skipped, and the rest of the line is asked for behind them. -/
theorem discardKnown_of_le (h : known ≤ r.buffer.size) :
    discardKnown count known r =
      match (r.skip known).readLine with
      | (.line l, r') => (count + known + l.size, r')
      | (.overrun n, r') => discardKnown (count + known) n r'
      | (.rest l, r') => (count + known + l.size, r') := by
  have hsize : (r.buffer.take known).size = known := by
    rw [Bytes.size_take]
    omega
  rw [discardKnown]
  split
  next b r' hb =>
    rw [readBytes_of_le h] at hb
    cases hb
    rw [hsize, if_neg (Nat.lt_irrefl known)]
    split <;> simp [*]

theorem discardOnto_of_overrun (h : r.readLine = (.overrun n, r')) :
    discardOnto count r = discardOnto (count + n) (r'.skip n) := by
  rw [discardOnto]
  split <;> rename_i h' <;> rw [h] at h' <;> cases h'
  rfl

end Unfolding

/-- To take the bytes that are known is to discard a line, with these bytes counted. -/
theorem discardKnown_eq {count known : Nat} (h : known ≤ r.buffer.size) :
    discardKnown count known r = discardOnto (count + known) (r.skip known) := by
  generalize hs : r.skip known = s
  generalize hc : count + known = c
  fun_induction discardOnto c s generalizing count known r with
  | case1 c s b s' hline => simp [discardKnown_of_le h, hs, hc, hline]
  | case2 c s n s' hline ih =>
    rw [discardKnown_of_le h, hs, hc, hline]
    exact ih (readLine_overrun hline).2.1 rfl rfl
  | case3 c s b s' hline => simp [discardKnown_of_le h, hs, hc, hline]

/-! ## Discarding -/

/-- A line that is over the limit is discarded, and nothing else. Its bytes are counted, its newline
included if it has one, and the reader stands behind it ; it comes to this whether the bytes that are
known are taken first or the line is asked for again, and however the same bytes arrive. The next
line is given out whole, if it keeps to the limit. -/
theorem discardLine_of_overrun {n : Nat} (h : r.readLine = (.overrun n, r')) :
    ∃ line rest, FirstLine r.left line rest ∧ r.limit < textLength line ∧
      (r'.discardLine.1 = line.length ∧ r'.discardLine.2.left = rest ∧
        r'.discardLine.2.limit = r.limit) ∧
      discardKnown 0 n r' = r'.discardLine ∧
      (∀ s : Reader, s.left = r.left → s.limit = r.limit →
        ∃ m s', s.readLine = (.overrun m, s') ∧ (discardKnown 0 m s').1 = line.length ∧
          (discardKnown 0 m s').2.left = rest) ∧
      ∀ next after, FirstLine rest next after → textLength next ≤ r.limit →
        ∃ b, r'.discardLine.2.readLine.1.given? = some b ∧ b.toList = next ∧
          r'.discardLine.2.readLine.2.left = after := by
  obtain ⟨line, rest, hline⟩ := exists_firstLine r.left
  have hlt := lt_textLength_of_overrun h hline
  -- what is discarded after any overrun on this line
  have discarded : ∀ {s s' : Reader} {m : Nat}, s.left = r.left → s.limit = r.limit →
      s.readLine = (.overrun m, s') → discardKnown 0 m s' = s'.discardLine ∧
        s'.discardLine.1 = line.length ∧ s'.discardLine.2.left = rest ∧
        s'.discardLine.2.limit = r.limit := by
    intro s s' m hleft hlimit hover
    have hreads := s.reads_readLine
    rw [hover, hleft, hlimit] at hreads
    obtain ⟨hlimit', hleft', -, hm, -⟩ := hreads
    obtain ⟨first, hfirst, hcount, hlimit''⟩ := s'.discardLine_eq
    rw [hleft'] at hfirst
    obtain ⟨rfl, hrest⟩ := hline.unique hfirst
    refine ⟨?_, hcount, hrest.symm, hlimit''.trans hlimit'⟩
    rw [discardKnown_eq hm, discardLine, discardOnto_of_overrun (readLine_of_overrun hover)]
  obtain ⟨hknown, hdiscarded⟩ := discarded rfl rfl h
  refine ⟨line, rest, hline, hlt, hdiscarded, hknown, fun s hleft hlimit => ?_,
    fun next after hnext hle => ?_⟩
  · have hs : FirstLine s.left line rest := by rwa [hleft]
    obtain ⟨m, s', hover, -⟩ := readLine_of_lt hs (by rwa [hlimit])
    obtain ⟨hknown, hcount, hrest, -⟩ := discarded hleft hlimit hover
    exact ⟨m, s', hover, by rw [hknown, hcount], by rw [hknown, hrest]⟩
  · obtain ⟨-, hrest, hlimit⟩ := hdiscarded
    obtain ⟨b, hgiven, hb, hafter, -⟩ := readLine_of_le (by rwa [hrest]) (hle.trans_eq hlimit.symm)
    exact ⟨b, hgiven, hb, hafter⟩

/-- The pieces `abcd`, `efgh` and `i⏎j⏎`, of which the first two overrun a limit of three. -/
def pieces : Reader :=
  ⟨3, .empty, [.ofList [97, 98, 99, 100], .ofList [101, 102, 103, 104], .ofList [105, 10, 106, 10]]⟩

theorem discardLine_of_overrun_pieces :
    ∃ n r', pieces.readLine = (.overrun n, r') ∧ r'.discardLine.1 = 10 ∧
      r'.discardLine.2.left = [106, newline] := by
  have hline : FirstLine pieces.left ([97, 98, 99, 100, 101, 102, 103, 104, 105] ++ [newline])
      [106, newline] := by
    have hleft : pieces.left =
        [97, 98, 99, 100, 101, 102, 103, 104, 105] ++ newline :: [106, newline] := by
      simp [pieces, left, newline]
    rw [hleft]
    exact .ended (by decide)
  obtain ⟨n, r', hover, -⟩ := readLine_of_lt hline (by decide)
  obtain ⟨line, rest, hfirst, -, ⟨hcount, hrest, -⟩, -⟩ := discardLine_of_overrun hover
  obtain ⟨rfl, rfl⟩ := hfirst.unique hline
  exact ⟨n, r', hover, hcount, hrest⟩

end Reader

end AddonAtlas
