import AddonAtlas.Proofs.Scan.Output

/-!
# What is cut off a scan

Three things cut hits off a scan : its budget, the limit on its lines, and a consumer that stops. A
smaller budget keeps a shorter prefix of the lines (`within_prefix_within`). A lower limit takes
away the hits on longer lines and no others, since a line over the limit counts against the budget
with all its bytes (`filterMap_onLine?`). A consumer asks for one hit after the other
(`Reading.next`) ; as many as it asked for are the first ones of the whole scan, and what a scan has
to say at its end is heard only by who asks for more hits than there are (`ofConsumer_eq`).
-/

namespace AddonAtlas

/-! ## Budgets and limits -/

/-- The lines within a budget are the first ones of those within a larger budget. -/
theorem within_prefix_within {budget₁ budget₂ : Int} (h : budget₁ ≤ budget₂) (received : Nat)
    (lines : List (List UInt8)) :
    within budget₁ received lines <+: within budget₂ received lines := by
  induction lines generalizing received with
  | nil => exact List.prefix_refl _
  | cons line rest ih =>
    rw [within, within]
    by_cases hover : budget₁ < ((received + line.length : Nat) : Int)
    · rw [if_pos hover]
      exact List.nil_prefix
    · rw [if_neg hover, if_neg (by omega), List.prefix_cons_inj]
      exact ih _

/-- Of the hits on lines, a lower limit leaves those on lines that keep to it. -/
theorem filterMap_onLine? {limit₁ limit₂ : Nat} (h : limit₁ ≤ limit₂) (lines : List (List UInt8)) :
    lines.filterMap (Hit.onLine? limit₁) =
      (lines.filter fun line => textLength line ≤ limit₁).filterMap (Hit.onLine? limit₂) := by
  rw [List.filterMap_filter]
  refine List.filterMap_congr fun line _ => ?_
  by_cases hline : textLength line ≤ limit₁
  · simp [Hit.onLine?, hline, hline.trans h]
  · simp [Hit.onLine?, hline]

/-! ## One hit after the other -/

namespace Reading

/-- What asking for the next hit comes to : the hit, with how much is received by then and what is
left to read ; or the end of the scan. -/
inductive Next
  | hit (h : Hit) (received : Nat) (r : Reader)
  | ended (received : Nat) (truncated : Bool)

/-- Reads lines until there is a hit on one of them. -/
def next (budget : Int) (received : Nat) (r : Reader) : Next :=
  match _h : r.readLine with
  | (.line b, r') =>
    let received := received + b.size
    if budget < received then .ended received true
    else
      match Hit.ofLine? b with
      | some h => .hit h received r'
      | none => next budget received r'
  | (.overrun _, r') =>
    let received := received + r'.discardLine.1
    if budget < received then .ended received true
    else next budget received r'.discardLine.2
  | (.rest b, r') =>
    let received := received + b.size
    if _hb : b.isEmpty then .ended received false
    else if budget < received then .ended received true
    else
      match Hit.ofLine? b with
      | some h => .hit h received r'
      | none => next budget received r'
termination_by r.remaining
decreasing_by
  · have := Reader.readLine_line _h
    omega
  · exact Reader.remaining_discardLine_lt _h
  · have := Reader.readLine_rest _h
    have : b.size ≠ 0 := fun h => _hb (b.isEmpty_eq_true.2 (by
      rwa [← List.length_eq_zero_iff, b.length_toList]))
    omega

/-- Asks for a number of hits, and gives those that there are, with what is received by the end if
the scan ends before. -/
def nextHits (budget : Int) : (count received : Nat) → Reader → List Hit × Option (Nat × Bool)
  | 0, _, _ => ([], none)
  | count + 1, received, r =>
    match next budget received r with
    | .hit h received r' => (nextHits budget count received r').map (h :: ·) id
    | .ended received truncated => ([], some (received, truncated))

section Unfolding

variable {budget : Int} {received : Nat} {hits : List Hit} {r r' : Reader} {b : Bytes}

theorem readOnto_of_line (h : r.readLine = (.line b, r')) :
    readOnto budget received hits r =
      if budget < ((received + b.size : Nat) : Int) then ⟨hits.reverse, received + b.size, true⟩
      else readOnto budget (received + b.size) ((Hit.ofLine? b).toList ++ hits) r' := by
  rw [readOnto]
  split <;> rename_i h' <;> rw [h] at h' <;> cases h'
  rfl

theorem readOnto_of_overrun {n : Nat} (h : r.readLine = (.overrun n, r')) :
    readOnto budget received hits r =
      if budget < ((received + r'.discardLine.1 : Nat) : Int) then
        ⟨hits.reverse, received + r'.discardLine.1, true⟩
      else readOnto budget (received + r'.discardLine.1) hits r'.discardLine.2 := by
  rw [readOnto]
  split <;> rename_i h' <;> rw [h] at h' <;> cases h'
  rfl

/-- Behind the rest of an output there is nothing to read. -/
theorem readOnto_of_rest (h : r.readLine = (.rest b, r')) :
    readOnto budget received hits r =
      if b.isEmpty then ⟨hits.reverse, received + b.size, false⟩
      else if budget < ((received + b.size : Nat) : Int) then
        ⟨hits.reverse, received + b.size, true⟩
      else readOnto budget (received + b.size) ((Hit.ofLine? b).toList ++ hits) r' := by
  have hreads := r.reads_readLine
  rw [h] at hreads
  obtain ⟨-, hleft, -⟩ := hreads
  rw [readOnto_eq _ _ _ r', hleft, readOnto]
  split <;> rename_i h' <;> rw [h] at h' <;> cases h'
  rfl

end Unfolding

/-- A reading is the next hit, and then the reading of what is left. -/
theorem readOnto_eq_next (budget : Int) (received : Nat) (hits : List Hit) (r : Reader) :
    readOnto budget received hits r =
      match next budget received r with
      | .hit h received' r' => readOnto budget received' (h :: hits) r'
      | .ended received' truncated => ⟨hits.reverse, received', truncated⟩ := by
  fun_induction next budget received r with
  | case1 received r b r' h received' hover => rw [readOnto_of_line h, if_pos hover]
  | case2 received r b r' h received' hover hit hhit =>
    rw [readOnto_of_line h, if_neg hover, hhit]
    rfl
  | case3 received r b r' h received' hover hhit ih =>
    rw [readOnto_of_line h, if_neg hover, hhit]
    exact ih
  | case4 received r n r' h received' hover => rw [readOnto_of_overrun h, if_pos hover]
  | case5 received r n r' h received' hover ih => rw [readOnto_of_overrun h, if_neg hover, ih]
  | case6 received r b r' h received' hempty => rw [readOnto_of_rest h, if_pos hempty]
  | case7 received r b r' h received' hempty hover =>
    rw [readOnto_of_rest h, if_neg hempty, if_pos hover]
  | case8 received r b r' h received' hempty hover hit hhit =>
    rw [readOnto_of_rest h, if_neg hempty, if_neg hover, hhit]
    rfl
  | case9 received r b r' h received' hempty hover hhit ih =>
    rw [readOnto_of_rest h, if_neg hempty, if_neg hover, hhit]
    exact ih

/-- Hits that were found before are given out first, and change nothing else. -/
theorem ofLines_eq_append (limit : Nat) (budget : Int) (received : Nat) (hits : List Hit)
    (lines : List (List UInt8)) :
    ofLines limit budget received hits lines =
      { ofLines limit budget received [] lines with
        hits := hits.reverse ++ (ofLines limit budget received [] lines).hits } := by
  induction lines generalizing received hits with
  | nil => simp [ofLines]
  | cons line rest ih =>
    by_cases hover : budget < ((received + line.length : Nat) : Int)
    · simp [ofLines_of_lt rfl hover]
    · rw [ofLines_of_not_lt rfl hover, ofLines_of_not_lt rfl hover, ih, ih _ (_ ++ [])]
      simp

theorem readOnto_eq_append (budget : Int) (received : Nat) (hits : List Hit) (r : Reader) :
    readOnto budget received hits r =
      { readOnto budget received [] r with
        hits := hits.reverse ++ (readOnto budget received [] r).hits } := by
  rw [readOnto_eq, readOnto_eq, ofLines_eq_append]

/-- As many hits as are asked for are the first ones of the whole reading, and its end is met by
who asks for more than there are. -/
theorem nextHits_eq (budget : Int) (count received : Nat) (r : Reader) :
    nextHits budget count received r =
      ((readOnto budget received [] r).hits.take count,
        if count ≤ (readOnto budget received [] r).hits.length then none
        else some ((readOnto budget received [] r).received,
          (readOnto budget received [] r).truncated)) := by
  induction count generalizing received r with
  | zero => simp [nextHits]
  | succ count ih =>
    rw [nextHits, readOnto_eq_next]
    cases next budget received r with
    | hit h received' r' =>
      have hrest := readOnto_eq_append budget received' [h] r'
      simp only [ih, hrest]
      simp
    | ended received' truncated => simp

end Reading

namespace ScanRun

/-- What a consumer sees that asks for a number of hits. One that has got them stops the scan, and
does not see how it would have ended. -/
def ofConsumer (limit : Nat) (budget : Int) (count : Nat) (e : Execution) : ScanRun :=
  match Reading.nextHits budget count 0 ⟨limit, Bytes.empty, e.output⟩ with
  | (hits, none) => { nothing with hits := hits }
  | (hits, some (received, truncated)) =>
    { hits := hits
      log := if truncated then [truncation budget] else []
      failure := if (Reading.mk hits received truncated).isSilent then exitFailure? e else none
      started := true
      sleep := if truncated then 0 else e.sleep
      tree := e.tree }

theorem ofConsumer_eq (limit : Nat) (budget : Int) (count : Nat) (e : Execution) :
    ofConsumer limit budget count e = (ofExecution limit budget e).upTo count := by
  rw [ofConsumer, Reading.nextHits_eq, ← Reading.read, upTo, ofExecution]
  by_cases hcount : count ≤ (Reading.read limit budget e.output).hits.length
  · simp only [hcount, if_true]
  · simp only [hcount, if_false, List.take_of_length_le (Nat.le_of_not_le hcount)]

/-- What is cut off a scan of any output. With a smaller budget its hits are the first ones of
those with a larger one. With a lower limit they are those, of the hits with a higher one, that stand
on lines within the lower limit ; these lines are the same, whatever the limit. Neither has to do
with how the scan fails. A consumer that asks for some hits is given the first ones, and no failure
if there are as many ; otherwise it sees the whole scan. -/
theorem hits_cut (e : Execution) :
    (∀ limit budget₁ budget₂, budget₁ ≤ budget₂ →
        (ofExecution limit budget₁ e).hits <+: (ofExecution limit budget₂ e).hits) ∧
      (∀ budget, ∃ kept, LongestWithin budget (linesOf e.written) kept ∧
        ∀ limit₁ limit₂, limit₁ ≤ limit₂ →
          (ofExecution limit₂ budget e).hits = kept.filterMap (Hit.onLine? limit₂) ∧
          (ofExecution limit₁ budget e).hits =
            (kept.filter fun line => textLength line ≤ limit₁).filterMap (Hit.onLine? limit₂)) ∧
      (∀ limit₁ limit₂ budget₁ budget₂,
        (ofExecution limit₁ budget₁ e).failure = (ofExecution limit₂ budget₂ e).failure) ∧
      ∀ limit budget count,
        (ofConsumer limit budget count e).hits = (ofExecution limit budget e).hits.take count ∧
        (count ≤ (ofExecution limit budget e).hits.length →
          (ofConsumer limit budget count e).failure = none) ∧
        ((ofExecution limit budget e).hits.length < count →
          ofConsumer limit budget count e = ofExecution limit budget e) := by
  refine ⟨fun limit budget₁ budget₂ hle => ?budget, fun budget => ?limit,
    fun limit₁ limit₂ budget₁ budget₂ => ?failure, fun limit budget count => ?consumer⟩
  case budget =>
    rw [hits_ofExecution, hits_ofExecution]
    exact (within_prefix_within hle 0 _).filterMap _
  case limit =>
    refine ⟨_, longestWithin_within budget _, fun limit₁ limit₂ hle => ?_⟩
    rw [hits_ofExecution, hits_ofExecution]
    exact ⟨rfl, filterMap_onLine? hle _⟩
  case failure => rw [failure_ofExecution, failure_ofExecution]
  case consumer =>
    rw [ofConsumer_eq, upTo]
    by_cases hcount : count ≤ (ofExecution limit budget e).hits.length
    · rw [if_pos hcount]
      exact ⟨rfl, fun _ => rfl, fun hlt => absurd hcount (Nat.not_le_of_lt hlt)⟩
    · rw [if_neg hcount, List.take_of_length_le (Nat.le_of_not_le hcount)]
      exact ⟨rfl, fun hle => absurd hle hcount, fun _ => rfl⟩

/-- A program that finds two lines, of which the second one is longer. -/
def twoLines : Execution :=
  ⟨[Bytes.ofString "a:1:x\nb:2:y", Bytes.ofString "yyy\n"], Bytes.empty, 0, .exited 2, none⟩

theorem hits_cut_twoLines :
    ((10 : Int) ≤ 100 ∧
        (ofExecution 20 10 twoLines).hits <+: (ofExecution 20 100 twoLines).hits) ∧
      (5 ≤ 20 ∧ ∃ kept, LongestWithin 100 (linesOf twoLines.written) kept ∧
        (ofExecution 20 100 twoLines).hits = kept.filterMap (Hit.onLine? 20) ∧
        (ofExecution 5 100 twoLines).hits =
          (kept.filter fun line => textLength line ≤ 5).filterMap (Hit.onLine? 20)) ∧
      (1 ≤ (ofExecution 20 100 twoLines).hits.length ∧
        (ofConsumer 20 100 1 twoLines).failure = none) ∧
      ((ofExecution 20 100 twoLines).hits.length < 3 ∧
        ofConsumer 20 100 3 twoLines = ofExecution 20 100 twoLines) := by
  obtain ⟨budget, limit, -, consumer⟩ := hits_cut twoLines
  have hhits : (ofExecution 20 100 twoLines).hits = [⟨"a", 1, "x"⟩, ⟨"b", 2, "yyyy"⟩] := by
    rw [hits_ofExecution]
    decide +kernel
  obtain ⟨kept, hlongest, hkept⟩ := limit 100
  have one : 1 ≤ (ofExecution 20 100 twoLines).hits.length := by simp [hhits]
  have three : (ofExecution 20 100 twoLines).hits.length < 3 := by simp [hhits]
  exact ⟨⟨by decide, budget 20 10 100 (by decide)⟩,
    ⟨by decide, kept, hlongest, hkept 5 20 (by decide)⟩,
    ⟨one, (consumer 20 100 1).2.1 one⟩, three, (consumer 20 100 3).2.2 three⟩

end ScanRun

end AddonAtlas
