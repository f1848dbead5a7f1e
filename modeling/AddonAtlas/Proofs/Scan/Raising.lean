import AddonAtlas.Proofs.Launch
import AddonAtlas.Proofs.Scan.Search

/-!
# Scans that raise

A scan of the search program can fail in two ways. What the system or the program complains of is a
scan failure, and whoever asked for the scan goes on with no hits. A command that cannot be handed
to the system at all raises, and nothing is started. Which of both it is can be told by the
characters of the command (`ScanRequest.Passes`), whatever files there are and however long it takes
(`ScanJob.outcome_run`).
-/

namespace AddonAtlas

/-- A scan whose command can be handed to the system. -/
structure ScanRequest.Passes (r : ScanRequest) : Prop where
  grep : Launch.Passes r.grep
  query : ∀ q, r.pattern.query? = some q → Launch.Passes q
  roots : ∀ root ∈ r.roots, Launch.Passes root

theorem ScanRequest.findSome?_command {r : ScanRequest} :
    r.command.findSome? Launch.fault? = none ↔ r.Passes := by
  have hflags : ∀ s ∈ ["-E", "-R", "-n", "-I", "-s", "-e", "--"], Launch.fault? s = none := by
    decide
  have hcommand : (∀ s ∈ r.command, Launch.fault? s = none) ↔
      Launch.fault? r.grep = none ∧ Launch.fault? r.pattern.grepExpression = none ∧
        ∀ root ∈ r.roots, Launch.fault? root = none := by
    simp only [List.forall_mem_cons] at hflags
    simp only [command, TreeSearch.arguments, List.forall_mem_cons, List.forall_mem_append, hflags,
      List.not_mem_nil, false_implies, implies_true, true_and, and_true]
  rw [List.findSome?_eq_none_iff, hcommand]
  simp only [Launch.fault?_eq_none_iff, Launch.passes_grepExpression]
  exact ⟨fun h => ⟨h.1, h.2.1, h.2.2⟩, fun h => ⟨h.grep, h.query, h.roots⟩⟩

/-- What is wrong with the characters of a text is not what the system complains of. -/
theorem Launch.isValue_of_fault? {s : String} {refusal : Refusal} (h : fault? s = some refusal)
    (program : String) :
    ∃ f, ScanRun.ofRefusal program refusal = { ScanRun.nothing with failure := some f } ∧
      f.kind.isValue = true := by
  unfold fault? at h
  split at h
  · cases h
    exact ⟨_, rfl, rfl⟩
  · split at h
    · cases h
      exact ⟨_, rfl, rfl⟩
    · cases h

/-- The failure by which a scan raises whose command cannot be handed to the system. -/
def ScanRequest.failure? (r : ScanRequest) : Option Failure :=
  (r.command.findSome? Launch.fault?).bind fun refusal => (ScanRun.ofRefusal r.grep refusal).failure

theorem ScanRequest.failure?_eq_none {r : ScanRequest} : r.failure? = none ↔ r.Passes := by
  rw [← findSome?_command, failure?]
  cases hfault : r.command.findSome? Launch.fault? with
  | none => simp
  | some refusal =>
    obtain ⟨s, -, hs⟩ := List.exists_of_findSome?_eq_some hfault
    obtain ⟨f, hf, -⟩ := Launch.isValue_of_fault? hs r.grep
    simp [hf]

namespace ScanRun

variable (t : FileTree) (environment : List (String × String)) {request : ScanRequest}

/-- A scan of a command that can be handed over does not raise. -/
theorem outcome_ne_raised (h : request.Passes) (limit : Nat) (failure : Failure) :
    (run t environment limit request).outcome ≠ .raised failure := by
  have hpasses : (request.grep :: request.command.tail).findSome? Launch.fault? = none :=
    ScanRequest.findSome?_command.2 h
  have hsystem : ∀ reason program,
      (ofRefusal request.grep (.system reason program)).outcome ≠ .raised failure :=
    fun _ _ => by simp [ofRefusal, failed, outcome, ScanOutcome.ofFailure]
  have hstarted : ∀ e, (ofExecution limit request.budget e).outcome ≠ .raised failure := fun e => by
    rcases outcome_ofExecution limit request.budget e with ho | ⟨-, reason, ho⟩ <;> simp [ho]
  cases hroots : request.roots with
  | nil => simp [run, hroots, nothing, outcome]
  | cons root others =>
    simp only [run, hroots, Launch.start, hpasses]
    split
    · next refusal hrefusal =>
      split at hrefusal
      · cases hrefusal
        exact hsystem _ _
      · split at hrefusal
        · cases hrefusal
        · cases hrefusal
          exact hsystem _ _
    · exact hstarted _

/-- A scan of a command that cannot be handed over starts nothing, and raises. -/
theorem run_of_failure? (hroots : request.roots ≠ []) {f : Failure} (h : request.failure? = some f)
    (limit : Nat) :
    run t environment limit request = { nothing with failure := some f } ∧
      f.kind.isValue = true := by
  obtain ⟨refusal, hfault, hfailure⟩ := Option.bind_eq_some_iff.1 h
  obtain ⟨s, -, hs⟩ := List.exists_of_findSome?_eq_some hfault
  obtain ⟨f', hrefused, hkind⟩ := Launch.isValue_of_fault? hs request.grep
  rw [hrefused] at hfailure
  obtain rfl : f' = f := Option.some.inj hfailure
  have hfault' : (request.grep :: request.command.tail).findSome? Launch.fault? = some refusal :=
    hfault
  obtain ⟨root, others, hcons⟩ := List.exists_cons_of_ne_nil hroots
  exact ⟨by simp only [run, hcons, Launch.start, hfault', hrefused], hkind⟩

theorem outcome_sorted_ne_raised {r : ScanRun} {failure : Failure}
    (h : r.outcome ≠ .raised failure) : r.sorted.outcome ≠ .raised failure := by
  cases hf : r.failure with
  | none => simp [outcome, sorted, hf]
  | some f => simpa [outcome, sorted, hf] using h

end ScanRun

/-- A failure about a value is none of those that a scan is expected to have. -/
theorem ScanOutcome.ofFailure_of_isValue {f : Failure} (h : f.kind.isValue = true) :
    ScanOutcome.ofFailure f = .raised f := by
  unfold ofFailure
  split
  · next hkind => simp [hkind, Failure.Kind.isValue] at h
  · next hkind => simp [hkind, Failure.Kind.isValue] at h
  · rfl

namespace ScanJob

/-- A scan of the search program ends, and raises exactly if its command cannot be handed to the
system, unless there is no time for it. -/
theorem outcome_run {j : ScanJob} {sorted : Bool} (hj : j.scanner = .program sorted)
    (hroots : j.request.roots ≠ []) (t : FileTree) (left : Option Nat) :
    ∃ o, (j.run t left).outcome = some o ∧
      ∀ f, o = .raised f ↔ j.isHopeless = false ∧ j.request.failure? = some f := by
  unfold run
  split
  · next hopeless => exact ⟨.timedOut, rfl, by simp [hopeless]⟩
  · next hhope =>
    simp only [hj, runProgram, hhope, true_and]
    cases hfailure : j.request.failure? with
    | none =>
      have hpasses := ScanRequest.failure?_eq_none.1 hfailure
      split
      · exact ⟨.timedOut, rfl, by simp⟩
      · refine ⟨_, rfl, fun f => iff_of_false ?_ (by simp)⟩
        have hrun := ScanRun.outcome_ne_raised t j.environment.bindings hpasses lineLimit f
        split
        · exact ScanRun.outcome_sorted_ne_raised hrun
        · exact hrun
    | some f =>
      obtain ⟨hrun, hkind⟩ :=
        ScanRun.run_of_failure? t j.environment.bindings hroots hfailure lineLimit
      have hraised := ScanOutcome.ofFailure_of_isValue hkind
      have hnever : left.filter (fun _ => false) = none := by cases left <;> rfl
      refine ⟨.raised f, ?_, by simp⟩
      simp only [hrun, ScanRun.nothing, Bool.false_and, hnever]
      cases sorted <;> exact congrArg some hraised

end ScanJob

end AddonAtlas
