import AddonAtlas.Proofs.Launch
import AddonAtlas.Proofs.Scan.Output
import AddonAtlas.Proofs.Session.Run
import Mathlib.Algebra.Order.BigOperators.Group.List
import Mathlib.Algebra.Order.Group.Nat
import Mathlib.Data.List.Flatten

/-!
# Scans of plain trees

Two scans of the same roots, one for any value and one for the values a pattern asks for. The second
one writes some of the reports of the first one (`sublist_output`), so it keeps to the budget if
the first one does. What it finds are those hits of the first one whose identities fit
(`found_outcome`). A scan that fails has found nothing ; and if a program is refused for a
reason that lies in the roots, so is the other one.
-/

namespace AddonAtlas

open Bytes (newline)

/-! ## Outputs -/

/-- An output of whole lines has the pieces for its lines. -/
theorem linesOf_flatMap {rs : List Bytes}
    (h : ∀ b ∈ rs, ∃ m, b.toList = m ++ [newline] ∧ newline ∉ m) :
    linesOf (rs.flatMap Bytes.toList) = rs.map Bytes.toList := by
  induction rs with
  | nil => rfl
  | cons b rs ih =>
    obtain ⟨hb, hrs⟩ := List.forall_mem_cons.1 h
    obtain ⟨m, hm, hfree⟩ := hb
    rw [List.flatMap_cons, hm, List.append_assoc, List.singleton_append, linesOf_append hfree,
      ih hrs, List.map_cons, hm]

namespace TreeSearch

/-- All files below the roots are plain. -/
def IsPlain (t : FileTree) (roots : List String) : Prop :=
  ∀ v ∈ roots.flatMap (visitRoot t), v.IsPlain

/-- The reports of a pattern on all files below the roots. -/
def output (t : FileTree) (roots : List String) (p : DeclarationPattern) : List Bytes :=
  (roots.flatMap (visitRoot t)).flatMap (reportsOn [p.byteRegex] (namesFiles t roots))

/-- The hits in an output, as far as lines keep to the limit. -/
def hits (limit : Nat) (t : FileTree) (roots : List String) (p : DeclarationPattern) : List Hit :=
  (output t roots p).filterMap (Reading.hitOn limit ·.toList)

variable {t : FileTree} {roots : List String}

theorem search_eq (t : FileTree) (roots : List String) {p : DeclarationPattern}
    (hp : ∀ q, p.query? = some q → '\n' ∉ q.toList) :
    ∃ status, search t p.grepExpression roots =
      ⟨output t roots p, Bytes.empty, 0, .exited status, none⟩ := by
  rw [search, DeclarationPattern.parse_grepExpression hp]
  exact ⟨_, by simp only [List.flatMap_map]; rfl⟩

/-- A report on a plain file is one line. -/
theorem exists_line_of_mem_output (h : IsPlain t roots) {p : DeclarationPattern} {b : Bytes}
    (hb : b ∈ output t roots p) : ∃ m, b.toList = m ++ [newline] ∧ newline ∉ m := by
  obtain ⟨v, hv, hb⟩ := List.mem_flatMap.1 hb
  cases v with
  | unreadable => exact absurd hb List.not_mem_nil
  | file path content =>
    have hplain := h _ hv
    obtain ⟨⟨line, n⟩, hline, rfl⟩ := List.mem_map.1 hb
    obtain ⟨cs, hcs, hfree⟩ := exists_plain_of_mem_lines hplain
      (List.fst_mem_of_mem_zipIdx (List.mem_of_mem_filter hline))
    have hline' : newline ∉ line.toList := hcs ▸ hfree.newline_notMem_encode
    exact ⟨_, toList_report _ path n line, newline_notMem_report hplain.2.1 _ n hline'⟩

/-- A reading of an output within the budget has all its hits. -/
theorem read_output (h : IsPlain t roots) {p : DeclarationPattern} (limit : Nat) {budget : Int}
    (hbudget : (((output t roots p).map Bytes.size).sum : Int) ≤ budget) :
    Reading.read limit budget (output t roots p) =
      ⟨hits limit t roots p, ((output t roots p).map Bytes.size).sum, false⟩ := by
  have hlengths : ((output t roots p).map Bytes.toList).map List.length =
      (output t roots p).map Bytes.size := by
    simp
  rw [Reading.read_eq, linesOf_flatMap fun b hb => exists_line_of_mem_output h hb,
    Reading.ofLines_of_le [] (by rw [hlengths]; simpa using hbudget), hlengths, hits,
    List.filterMap_map]
  simp

/-- An output without bytes has no hits. -/
theorem hits_of_sum_eq_zero (h : IsPlain t roots) {p : DeclarationPattern} (limit : Nat)
    (hsum : ((output t roots p).map Bytes.size).sum = 0) : hits limit t roots p = [] := by
  have hnil : output t roots p = [] := by
    refine List.eq_nil_iff_forall_not_mem.2 fun b hb => ?_
    obtain ⟨m, hm, -⟩ := exists_line_of_mem_output h hb
    have hle : b.size ≤ ((output t roots p).map Bytes.size).sum :=
      List.le_sum_of_mem (List.mem_map_of_mem hb)
    rw [hsum, ← Bytes.length_toList, hm] at hle
    simp at hle
  rw [hits, hnil]
  rfl

end TreeSearch

/-! ## Outcomes -/

/-- An expression that a search can be started with. -/
structure DeclarationPattern.IsSearchable (p : DeclarationPattern) : Prop where
  newline : ∀ q, p.query? = some q → '\n' ∉ q.toList
  fault : Launch.fault? p.grepExpression = none
  size : p.grepExpression.utf8ByteSize ≤ Launch.maxArgument

namespace ScanRun

open TreeSearch

variable {t : FileTree} {roots : List String}

/-- What is followed to its end comes to hits, or fails without any output. -/
theorem outcome_ofExecution (limit : Nat) (budget : Int) (e : Execution) :
    (ofExecution limit budget e).outcome = .hits (Reading.read limit budget e.output).hits ∨
      (Reading.read limit budget e.output).isSilent = true ∧
        ∃ reason, (ofExecution limit budget e).outcome = .failed reason := by
  by_cases hsilent : (Reading.read limit budget e.output).isSilent = true
  · cases hfailure : exitFailure? e with
    | none => exact .inl (by simp [outcome, ofExecution, hfailure])
    | some f =>
      have hkind := kind_of_exitFailure? hfailure
      refine .inr ⟨hsilent, f.message, ?_⟩
      simp only [outcome, ofExecution]
      rw [if_pos hsilent, hfailure]
      simp only [ScanOutcome.ofFailure, hkind]
  · refine .inl ?_
    simp only [outcome, ofExecution]
    rw [if_neg hsilent]

/-- A search that is started comes to the hits of its output, or fails where there are none. -/
theorem outcome_search (h : IsPlain t roots) {p : DeclarationPattern} (hp : p.IsSearchable)
    (limit : Nat) {budget : Int}
    (hbudget : (((output t roots p).map Bytes.size).sum : Int) ≤ budget) :
    (ofExecution limit budget (search t p.grepExpression roots)).outcome =
        .hits (TreeSearch.hits limit t roots p) ∨
      TreeSearch.hits limit t roots p = [] ∧ ∃ reason,
        (ofExecution limit budget (search t p.grepExpression roots)).outcome = .failed reason := by
  obtain ⟨status, hsearch⟩ := search_eq t roots hp.newline
  have hread := read_output h limit hbudget
  have houtput : (search t p.grepExpression roots).output = output t roots p := by
    rw [hsearch]
  have hcomes := outcome_ofExecution limit budget (search t p.grepExpression roots)
  rw [houtput, hread] at hcomes
  rcases hcomes with ho | ⟨hsilent, ho⟩
  · exact .inl ho
  · exact .inr ⟨hits_of_sum_eq_zero h limit (by simpa [Reading.isSilent] using hsilent), ho⟩

/-- The scan of a pattern : the program is refused, or the search is started. -/
theorem run_arguments {environment : List (String × String)} {grep : String}
    (hgrep : Launch.FindsGrep t environment grep) (hroots : roots ≠ []) (p : DeclarationPattern)
    (limit : Nat) (budget : Int) :
    run t environment limit ⟨roots, p, grep, budget⟩ =
      match Launch.refusal? grep (arguments p.grepExpression roots) with
      | some refusal => ofRefusal grep refusal
      | none => ofExecution limit budget (search t p.grepExpression roots) := by
  obtain ⟨root, others, rfl⟩ := List.exists_cons_of_ne_nil hroots
  have hcommand : (ScanRequest.mk (root :: others) p grep budget).command.tail =
      arguments p.grepExpression (root :: others) := rfl
  simp only [run, hcommand, Launch.start_search hgrep]
  cases Launch.refusal? grep (arguments p.grepExpression (root :: others)) <;> rfl

/-- Whether the program is refused is up to the roots, if the expression can be handed over. -/
theorem run_eq {environment : List (String × String)} {grep : String}
    (hgrep : Launch.FindsGrep t environment grep) (hroots : roots ≠ []) {p : DeclarationPattern}
    (hp : p.IsSearchable) (limit : Nat) (budget : Int) :
    run t environment limit ⟨roots, p, grep, budget⟩ =
      match Launch.refusal? grep roots with
      | some refusal => ofRefusal grep refusal
      | none => ofExecution limit budget (search t p.grepExpression roots) := by
  rw [run_arguments hgrep hroots, Launch.refusal?_arguments hp.fault hp.size]

/-- The search program takes no time to speak of. -/
theorem outcome_ne_timedOut {environment : List (String × String)} {grep : String}
    (hgrep : Launch.FindsGrep t environment grep) (hroots : roots ≠ []) (p : DeclarationPattern)
    (limit : Nat) (budget : Int) :
    (run t environment limit ⟨roots, p, grep, budget⟩).outcome ≠ .timedOut := by
  rw [run_arguments hgrep hroots]
  cases Launch.refusal? grep (arguments p.grepExpression roots) with
  | some refusal => cases refusal <;> simp [ofRefusal, failed, outcome, ScanOutcome.ofFailure]
  | none =>
    rcases outcome_ofExecution limit budget (search t p.grepExpression roots) with
      ho | ⟨-, reason, ho⟩ <;> simp [ho]

theorem isSearchable_of_query {p : DeclarationPattern} (hp : ∀ q, p.query? = some q → IsQuery q)
    (hsize : p.grepExpression.utf8ByteSize ≤ Launch.maxArgument) : p.IsSearchable where
  newline := fun q hq => (hp q hq).newline
  fault := Launch.fault?_grepExpression hp
  size := hsize

theorem isSearchable_free : DeclarationPattern.free.IsSearchable :=
  isSearchable_of_query (fun q hq => by cases hq) (by decide)

end ScanRun

end AddonAtlas
