import AddonAtlas.Proofs.Session.Run

/-!
# Well-formed sessions

The six fields of what a session shows are written together, by four writers, and they always
fit each other (`SessionState.WellFormed`) : an error goes with the status of one and with
nothing else, a search under way shows nothing yet, and the notice that nothing was found
stands exactly where there was a text to search for and nothing came of it.

What an event writes is `written?` (`state_step`), and each writer writes a well-formed state
(`wellFormed_of_written?`). Only a search that runs writes results. While the newest search
runs the session shows it, as long as no other search writes (`state_of_newest`), so results
always take the place of the search they belong to.
-/

namespace AddonAtlas

/-- The fields of what a session shows, as they fit each other. -/
structure SessionState.WellFormed (s : SessionState) : Prop where
  error_iff : s.status = .error ↔ s.error.isSome = true
  error : s.status = .error →
    s.error = some "Invalid addons path!" ∧ s.results = [] ∧ s.notice = none
  searching : s.status = .searching →
    s.query ≠ "" ∧ s.results = [] ∧ s.error = none ∧ s.notice = none
  empty : s.query = "" → s.status = .idle ∧ s.results = [] ∧ s.notice = none
  notice_iff : s.notice.isSome = true ↔ s.status = .idle ∧ s.query ≠ "" ∧ s.results = []

/-! ## The writers -/

namespace SessionState

theorem wellFormed_cleared (mode : SearchMode) : (cleared mode).WellFormed := by
  constructor <;> simp [cleared]

variable {query : String} (hq : query ≠ "") (mode : SearchMode)

include hq

theorem wellFormed_withoutRoots : (withoutRoots query mode).WellFormed := by
  constructor <;> simp [withoutRoots, noRootsError, hq]

theorem wellFormed_searching : (searching query mode).WellFormed := by
  constructor <;> simp [searching, hq]

theorem wellFormed_finished (results : List SearchItem) :
    (finished query mode results).WellFormed := by
  cases results <;> constructor <;> simp [finished, hq]

end SessionState

namespace Searches

variable (s : Searches)

/-- What an event has the session show ; nothing if it leaves what is shown alone. -/
def written? : SearchEvent → Option SessionState
  | .begin query mode (config, _) =>
    if query = "" then some (.cleared mode)
    else match config with
      | .error _ => none
      | .ok c => if c.roots = [] then some (.withoutRoots query mode)
        else some (.searching query mode)
  | .finish number o =>
    match s.find? number with
    | none => none
    | some t =>
      if t.number = s.session.issued then
        (Session.itemsOf t o).toOption.map (.finished t.query t.mode)
      else none
  | .cancel _ => none

/-- A session shows what was written last. -/
theorem state_step (e : SearchEvent) :
    (s.step e).session.state = (s.written? e).getD s.session.state := by
  cases e with
  | begin query mode config =>
    cases Session.beginning query config with
    | empty => simp [step_empty, written?]
    | refused hq f log => simp [step_refused s hq, written?, hq, Session.issue]
    | withoutRoots hq hc log => simp [step_withoutRoots s hq mode hc, written?, hq, hc]
    | scanning hq hc log => simp [step_scanning s hq mode hc, written?, hq, hc]
  | finish number o =>
    cases hf : s.find? number with
    | none => simp [step_finish_none hf, written?, hf]
    | some t =>
      by_cases hn : t.number = s.session.issued
      · cases ho : Session.itemsOf t o with
        | error f => simp [step_finish hf, Session.finish, written?, hf, ho, Except.toOption]
        | ok items =>
          simp [step_finish hf, Session.finish_issued _ hn ho, written?, hf, hn, ho,
            Except.toOption]
      · simp [step_finish hf, Session.finish_of_ne_issued _ hn, written?, hf, hn]
  | cancel number => rfl

/-- Results are written by the end of the newest search, which has run until then. -/
theorem written?_finish {number : Nat} {o : ScanOutcome} {state : SessionState}
    (h : s.written? (.finish number o) = some state) :
    ∃ t ∈ s.running, t.number = s.session.issued ∧
      ∃ items, state = .finished t.query t.mode items := by
  simp only [written?] at h
  split at h
  · cases h
  · rename_i t hf
    split at h
    · rename_i hn
      obtain ⟨items, -, rfl⟩ := Option.map_eq_some_iff.1 h
      exact ⟨t, mem_running_of_find? hf, hn, items, rfl⟩
    · cases h

/-- The beginning of a search writes a well-formed state without results. -/
theorem wellFormed_of_written?_begin {query : String} {mode : SearchMode}
    {config : Except Failure Config × Log} {state : SessionState}
    (h : s.written? (.begin query mode config) = some state) :
    state.WellFormed ∧ state.results = [] := by
  cases Session.beginning query config with
  | empty =>
    cases h
    exact ⟨SessionState.wellFormed_cleared mode, rfl⟩
  | refused hq f log => simp [written?, hq] at h
  | withoutRoots hq hc log =>
    simp only [written?, if_neg hq, if_pos hc] at h
    cases h
    exact ⟨SessionState.wellFormed_withoutRoots hq mode, rfl⟩
  | scanning hq hc log =>
    simp only [written?, if_neg hq, if_neg hc] at h
    cases h
    exact ⟨SessionState.wellFormed_searching hq mode, rfl⟩

/-! ## Whole runs -/

theorem query_ne_of_mem_running {es : List SearchEvent} {t : Ticket}
    (h : t ∈ (new.run es).running) : t.query ≠ "" := by
  obtain ⟨before, query, mode, c, log, between, -, hq, -, rfl⟩ := begun_of_mem_running h
  exact hq

/-- While the newest search runs, the session shows it. -/
theorem state_of_newest {es : List SearchEvent} {t : Ticket} (ht : t ∈ (new.run es).running)
    (hn : t.number = (new.run es).session.issued) :
    (new.run es).session.state = .searching t.query t.mode := by
  induction es using List.reverseRecOn with
  | nil => exact absurd ht List.not_mem_nil
  | append_singleton es e ih =>
    rw [run_concat] at ht hn ⊢
    cases e with
    | begin query mode config =>
      -- the running searches from before are older than the one that begins
      have hold : t ∉ (new.run es).running := fun h => by
        have := number_le_started h
        rw [issued_step, issued_run_new] at hn
        simp only [SearchEvent.begins, if_true] at hn
        omega
      rcases running_begin (new.run es) query mode config with hr | ⟨c, log, rfl, hq, hc, hr⟩
      · exact absurd (hr ▸ ht) hold
      · rw [hr] at ht
        rcases List.mem_cons.1 ht with rfl | ht
        · rw [step_scanning _ hq mode hc]
          rfl
        · exact absurd ht hold
    | finish number o =>
      cases hf : (new.run es).find? number with
      | none =>
        rw [step_finish_none hf] at ht hn ⊢
        exact ih ht hn
      | some t' =>
        rw [step_finish hf] at ht hn ⊢
        obtain ⟨ht, hne⟩ := (mem_without _).1 ht
        rw [Session.issued_finish] at hn
        have hn' : t'.number ≠ (new.run es).session.issued := by
          rw [number_of_find? hf, ← hn]
          exact hne.symm
        rw [Session.finish_of_ne_issued _ hn']
        exact ih ht hn
    | cancel number => exact ih ((mem_without _).1 ht).1 hn

theorem wellFormed_of_written? {es : List SearchEvent} {e : SearchEvent} {state : SessionState}
    (h : (new.run es).written? e = some state) : state.WellFormed := by
  cases e with
  | begin query mode config => exact (wellFormed_of_written?_begin _ h).1
  | finish number o =>
    obtain ⟨t, ht, -, items, rfl⟩ := written?_finish _ h
    exact SessionState.wellFormed_finished (query_ne_of_mem_running ht) t.mode items
  | cancel number => cases h

theorem wellFormed_run (es : List SearchEvent) : (new.run es).session.state.WellFormed := by
  induction es using List.reverseRecOn with
  | nil => exact SessionState.wellFormed_cleared _
  | append_singleton es e ih =>
    rw [run_concat, state_step]
    cases h : (new.run es).written? e with
    | none => exact ih
    | some state => exact wellFormed_of_written? h

/-- Results take the place of the search under way whose they are. -/
theorem searching_of_written? {es : List SearchEvent} {e : SearchEvent} {state : SessionState}
    (h : (new.run es).written? e = some state) (hr : state.results ≠ []) :
    (new.run es).session.state = .searching state.query state.mode := by
  cases e with
  | begin query mode config => exact absurd (wellFormed_of_written?_begin _ h).2 hr
  | finish number o =>
    obtain ⟨t, ht, hn, items, rfl⟩ := written?_finish _ h
    exact state_of_newest ht hn
  | cancel number => cases h

/-- What a session shows is well formed after every run. An event writes one state or leaves
the one shown, and a state with results takes the place of one that shows the search for the
same text in the same mode as under way. -/
theorem wellFormed_and_written (es : List SearchEvent) :
    (new.run es).session.state.WellFormed ∧
      ∀ e, ((new.run es).step e).session.state =
          ((new.run es).written? e).getD (new.run es).session.state ∧
        ∀ state, (new.run es).written? e = some state → state.results ≠ [] →
          (new.run es).session.state.status = .searching ∧
            (new.run es).session.state.query = state.query ∧
            (new.run es).session.state.mode = state.mode := by
  refine ⟨wellFormed_run es, fun e => ⟨state_step _ e, fun state h hr => ?_⟩⟩
  rw [searching_of_written? h hr]
  exact ⟨rfl, rfl, rfl⟩

end Searches

end AddonAtlas
