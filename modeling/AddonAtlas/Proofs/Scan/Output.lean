import AddonAtlas.Proofs.Scan.Report

/-!
# What a scan makes of an output

A scan of a program that exits is determined by the bytes of its output and its status. The
output is cut into lines, and the longest prefix of lines that keeps to the budget is kept
(`LongestWithin`). Each line kept yields its hit if it is within the limit and a record
(`hits_ofLines`). The output was truncated if it has a line and is over the budget
(`truncated_ofLines`), and the status counts only if the output has no byte
(`isSilent_ofLines`). How the output arrives, and where a line over the limit is noticed, does
not matter.
-/

namespace AddonAtlas

open Bytes (newline)

/-! ## Lines of an output -/

theorem flatten_linesOf (l : List UInt8) : (linesOf l).flatten = l := by
  induction l with
  | nil => rfl
  | cons b t ih =>
    rw [linesOf]
    split
    · rw [List.flatten_cons, ih]
      rfl
    · cases h : linesOf t with
      | nil =>
        rw [h] at ih
        rw [← ih]
        rfl
      | cons line rest =>
        rw [h] at ih
        rw [← ih]
        rfl

/-- A line is a text without newlines, with its newline or, at the end, without one. -/
theorem exists_of_mem_linesOf {l line : List UInt8} (h : line ∈ linesOf l) :
    ∃ m, newline ∉ m ∧ (line = m ∧ m ≠ [] ∨ line = m ++ [newline]) := by
  induction l generalizing line with
  | nil => cases h
  | cons b t ih =>
    rw [linesOf] at h
    split at h
    · next hb =>
      rcases List.mem_cons.1 h with rfl | h
      · exact ⟨[], List.not_mem_nil, .inr (by rw [hb]; rfl)⟩
      · exact ih h
    · next hb =>
      cases ht : linesOf t with
      | nil =>
        rw [ht] at h
        obtain rfl := List.mem_singleton.1 h
        exact ⟨[b], by simpa using Ne.symm hb, .inl ⟨rfl, List.cons_ne_nil _ _⟩⟩
      | cons first rest =>
        rw [ht] at h ih
        rcases List.mem_cons.1 h with rfl | h
        · obtain ⟨m, hm, hfirst⟩ := ih List.mem_cons_self
          refine ⟨b :: m, by simpa [Ne.symm hb] using hm, ?_⟩
          rcases hfirst with ⟨rfl, -⟩ | rfl
          · exact .inl ⟨rfl, List.cons_ne_nil _ _⟩
          · exact .inr rfl
        · exact ih (List.mem_cons_of_mem _ h)

theorem ne_nil_of_mem_linesOf {l line : List UInt8} (h : line ∈ linesOf l) : line ≠ [] := by
  obtain ⟨m, -, ⟨rfl, hne⟩ | rfl⟩ := exists_of_mem_linesOf h
  · exact hne
  · simp

theorem linesOf_eq_nil {l : List UInt8} : linesOf l = [] ↔ l = [] := by
  constructor
  · intro h
    rw [← flatten_linesOf l, h]
    rfl
  · rintro rfl
    rfl

/-- The text of a line, without its newline. -/
def textOf (line : List UInt8) : String :=
  String.ofList (Utf8.decode (line.take (textLength line)))

/-- What a line yields that is read : a hit, if the line is within the limit, not empty and a
record. -/
def Hit.onLine? (limit : Nat) (line : List UInt8) : Option Hit :=
  if textLength line ≤ limit ∧ textOf line ≠ "" then Hit.parse? (textOf line) else none

theorem Reading.hitOn_eq {l line : List UInt8} (h : line ∈ linesOf l) (limit : Nat) :
    hitOn limit line = Hit.onLine? limit line := by
  obtain ⟨m, hm, hline⟩ := exists_of_mem_linesOf h
  have htext : textOf line = String.ofList (Utf8.decode m) := by
    rcases hline with ⟨rfl, -⟩ | rfl
    · rw [textOf, textLength_of_notMem hm, List.take_length]
    · rw [textOf, textLength_append, List.take_left]
  have hparse : Hit.ofLine? (.ofList line) = Hit.parse? (textOf line) := by
    rw [htext]
    refine Hit.ofLine?_eq_parse? hm ?_
    rw [Bytes.toList_ofList]
    exact hline.imp_left And.left
  rw [hitOn, Hit.onLine?, hparse]
  by_cases hempty : textOf line = ""
  · have hnone : Hit.parse? "" = none := rfl
    simp [hempty, hnone]
  · simp only [hempty, ne_eq, not_false_eq_true, and_true]

/-! ## The budget -/

/-- The lines kept are those of the longest prefix that keeps to a budget of bytes : the prefixes
which do are those of what is kept. -/
structure LongestWithin (budget : Int) (lines kept : List (List UInt8)) : Prop where
  begins : kept <+: lines
  longest : ∀ p, p <+: lines → p ≠ [] → ((p.flatten.length : Int) ≤ budget ↔ p <+: kept)

/-- The lines that are within a budget, once so many bytes are received. -/
def within (budget : Int) : (received : Nat) → List (List UInt8) → List (List UInt8)
  | _, [] => []
  | received, line :: rest =>
    if budget < ((received + line.length : Nat) : Int) then []
    else line :: within budget (received + line.length) rest

theorem prefix_within (budget : Int) (received : Nat) (lines : List (List UInt8)) :
    within budget received lines <+: lines := by
  induction lines generalizing received with
  | nil => exact List.prefix_refl _
  | cons line rest ih =>
    rw [within]
    split
    · exact List.nil_prefix
    · exact (List.prefix_cons_inj line).2 (ih _)

theorem le_iff_prefix_within {budget : Int} (received : Nat) {lines p : List (List UInt8)}
    (hp : p <+: lines) (hne : p ≠ []) :
    ((received + p.flatten.length : Nat) : Int) ≤ budget ↔ p <+: within budget received lines := by
  induction lines generalizing received p with
  | nil => exact absurd (List.prefix_nil.1 hp) hne
  | cons line rest ih =>
    obtain ⟨q, rfl, hq⟩ : ∃ q, p = line :: q ∧ q <+: rest := by
      cases p with
      | nil => exact absurd rfl hne
      | cons x q =>
        obtain ⟨rfl, hq⟩ := List.cons_prefix_cons.1 hp
        exact ⟨q, rfl, hq⟩
    rw [List.flatten_cons, List.length_append, within]
    split
    · next hover => exact iff_of_false (by omega) (by simp)
    · next hunder =>
      rw [List.prefix_cons_inj, ← Nat.add_assoc]
      cases q with
      | nil => exact iff_of_true (by simpa using hunder) List.nil_prefix
      | cons x q => exact ih _ hq (List.cons_ne_nil x q)

theorem longestWithin_within (budget : Int) (lines : List (List UInt8)) :
    LongestWithin budget lines (within budget 0 lines) where
  begins := prefix_within budget 0 lines
  longest p hp hne := by simpa using le_iff_prefix_within 0 hp hne

/-! ## Readings -/

namespace Reading

variable (limit : Nat) (budget : Int)

theorem hits_ofLines (received : Nat) (hits : List Hit) (lines : List (List UInt8)) :
    (ofLines limit budget received hits lines).hits =
      hits.reverse ++ (within budget received lines).filterMap (hitOn limit) := by
  induction lines generalizing received hits with
  | nil => simp [ofLines, within]
  | cons line rest ih =>
    rw [ofLines, within]
    split
    · simp
    · rw [ih, List.filterMap_cons]
      cases hitOn limit line <;> simp

theorem truncated_ofLines (received : Nat) (hits : List Hit) (lines : List (List UInt8)) :
    (ofLines limit budget received hits lines).truncated = true ↔
      budget < ((received + lines.flatten.length : Nat) : Int) ∧ lines ≠ [] := by
  induction lines generalizing received hits with
  | nil => simp [ofLines]
  | cons line rest ih =>
    rw [ofLines, List.flatten_cons, List.length_append]
    split
    · next hover => exact iff_of_true rfl ⟨by omega, List.cons_ne_nil _ _⟩
    · next hunder =>
      rw [ih, ← Nat.add_assoc]
      refine and_congr_right fun hover => iff_of_true ?_ (List.cons_ne_nil _ _)
      rintro rfl
      exact hunder hover

theorem le_received_ofLines (received : Nat) (hits : List Hit) (lines : List (List UInt8)) :
    received ≤ (ofLines limit budget received hits lines).received := by
  induction lines generalizing received hits with
  | nil => exact Nat.le_refl _
  | cons line rest ih =>
    rw [ofLines]
    split
    · exact Nat.le_add_right _ _
    · exact Nat.le_trans (Nat.le_add_right _ _) (ih _ _)

/-- A reading is silent only if there is no line. -/
theorem isSilent_ofLines {lines : List (List UInt8)} (h : ∀ line ∈ lines, line ≠ []) :
    (ofLines limit budget 0 [] lines).isSilent = true ↔ lines = [] := by
  cases lines with
  | nil => exact iff_of_true rfl rfl
  | cons line rest =>
    have hpos : 0 < line.length := List.length_pos_iff.2 (h line List.mem_cons_self)
    refine iff_of_false (fun hsilent => ?_) (List.cons_ne_nil _ _)
    rw [isSilent, ofLines, Bool.and_eq_true, beq_iff_eq] at hsilent
    split at hsilent
    · cases hsilent.2
    · have := le_received_ofLines limit budget (0 + line.length)
        ((hitOn limit line).toList ++ []) rest
      omega

end Reading

/-! ## Scans -/

/-- All bytes that a program writes to its standard output. -/
def Execution.written (e : Execution) : List UInt8 :=
  e.output.flatMap Bytes.toList

namespace ScanRun

variable (limit : Nat) (budget : Int) (e : Execution)

theorem read_written : Reading.read limit budget e.output =
    Reading.ofLines limit budget 0 [] (linesOf e.written) :=
  Reading.read_eq limit budget e.output

theorem hits_ofExecution : (ofExecution limit budget e).hits =
    (within budget 0 (linesOf e.written)).filterMap (Hit.onLine? limit) := by
  rw [ofExecution, read_written, Reading.hits_ofLines, List.reverse_nil, List.nil_append]
  exact List.filterMap_congr fun line hline =>
    Reading.hitOn_eq ((prefix_within budget 0 _).mem hline) limit

theorem log_ofExecution : (ofExecution limit budget e).log =
    if budget < (e.written.length : Int) ∧ e.written ≠ [] then [truncation budget] else [] := by
  have htruncated := Reading.truncated_ofLines limit budget 0 [] (linesOf e.written)
  rw [flatten_linesOf, Nat.zero_add, ne_eq, linesOf_eq_nil] at htruncated
  simp only [ofExecution, read_written, htruncated, ne_eq]

theorem failure_ofExecution : (ofExecution limit budget e).failure =
    if e.written = [] then exitFailure? e else none := by
  have hne : ∀ line ∈ linesOf e.written, line ≠ [] := fun _ => ne_nil_of_mem_linesOf
  have hsilent := Reading.isSilent_ofLines limit budget hne
  rw [linesOf_eq_nil] at hsilent
  simp only [ofExecution, read_written, hsilent]

variable {e}

theorem isSome_exitFailure? {status : Nat} (h : e.ending = .exited status) :
    (exitFailure? e).isSome = true ↔ 2 ≤ status := by
  rw [exitFailure?, h]
  by_cases hs : status < 2
  · simp [hs]
  · simp [hs, Nat.le_of_not_lt hs]

theorem kind_of_exitFailure? {f : Failure} (h : exitFailure? e = some f) : f.kind = .scan := by
  unfold exitFailure? at h
  split at h
  · cases h
  · split at h
    · cases h
    · cases h
      rfl

theorem run_of_start {t : FileTree} {environment : List (String × String)} {request : ScanRequest}
    (hroots : request.roots ≠ [])
    (h : Launch.start t environment request.grep request.command.tail = .ok e) :
    run t environment limit request = ofExecution limit request.budget e := by
  cases hr : request.roots with
  | nil => exact absurd hr hroots
  | cons r rs => simp only [run, hr, h]

/-- What a scan makes of the output of a program that exits. Of the lines of the output, those
of the longest prefix within the budget yield their hits, in order ; a warning is logged if the
output is over the budget and has a byte ; the scan fails if the output has no byte and the
status is at least two, and then it has no hits. A scan of any roots is such a one, if its
program can be started. -/
theorem ofExecution_exited {status : Nat} (h : e.ending = .exited status) :
    (∃ kept, LongestWithin budget (linesOf e.written) kept ∧
        (ofExecution limit budget e).hits = kept.filterMap (Hit.onLine? limit)) ∧
      (ofExecution limit budget e).log =
        (if budget < (e.written.length : Int) ∧ e.written ≠ [] then [truncation budget] else []) ∧
      ((ofExecution limit budget e).failure.isSome = true ↔ e.written = [] ∧ 2 ≤ status) ∧
      (∀ f, (ofExecution limit budget e).failure = some f →
        f.kind = .scan ∧ (ofExecution limit budget e).hits = []) ∧
      ∀ t environment request, request.roots ≠ [] → request.budget = budget →
        Launch.start t environment request.grep request.command.tail = .ok e →
        run t environment limit request = ofExecution limit budget e := by
  refine ⟨⟨_, longestWithin_within budget _, hits_ofExecution limit budget e⟩,
    log_ofExecution limit budget e, ?_, fun f hf => ?_, ?_⟩
  · rw [failure_ofExecution]
    by_cases hwritten : e.written = []
    · rw [if_pos hwritten, isSome_exitFailure? h, and_iff_right hwritten]
    · simp [hwritten]
  · rw [failure_ofExecution] at hf
    by_cases hwritten : e.written = []
    · rw [if_pos hwritten] at hf
      rw [hits_ofExecution, hwritten]
      exact ⟨kind_of_exitFailure? hf, rfl⟩
    · rw [if_neg hwritten] at hf
      cases hf
  · rintro t environment request hroots rfl hstart
    exact run_of_start limit hroots hstart

/-- A program that complains and writes nothing else. -/
def complaining : Execution := ⟨[], Bytes.ofString "bad range", 0, .exited 2, none⟩

theorem ofExecution_exited_complaining :
    complaining.ending = .exited 2 ∧
      (ofExecution lineLimit defaultBudget complaining).failure.isSome = true :=
  ⟨rfl, (ofExecution_exited lineLimit defaultBudget (e := complaining) rfl).2.2.1.2
    ⟨rfl, Nat.le_refl 2⟩⟩

/-- A program that writes nothing and exits well. -/
def silent : Execution := ⟨[], Bytes.empty, 0, .exited 0, none⟩

/-- Nothing is over a budget below nothing, and no warning is logged of it. -/
theorem log_of_negative_budget :
    silent.ending = .exited 0 ∧ (-1 : Int) < (silent.written.length : Int) ∧
      (ofExecution lineLimit (-1) silent).log = [] := by
  refine ⟨rfl, by decide, ?_⟩
  rw [log_ofExecution]
  rfl

end ScanRun

end AddonAtlas
