import AddonAtlas.Proofs.Session.Run

/-!
# Searches that never end for the session

A session that shows `searching` shows the last search that got its configuration, and goes on
to show it unless that search returns as the newest one. So `searching` may stay for good :
after a failure of another kind in the scan, after a cancellation, and after a later search
that was refused its configuration. `status_eq_searching_iff` says that these are the only
ways, by the first event that touches the search shown.
-/

namespace AddonAtlas

/-- Whether an event bears on the newest search, which has a number : it ends that search, or
begins a newer one. -/
def SearchEvent.touches (number : Nat) : SearchEvent → Bool
  | begin _ _ _ => true
  | finish k _ => k = number
  | cancel k => k = number

/-- How a search can come to its end without the session being told : a newer search is begun
that is refused its configuration, the search is cancelled, or its scan fails by a failure of
another kind. -/
def SearchEvent.Strands (number : Nat) (e : SearchEvent) : Prop :=
  e.isRefused = true ∨ e = .cancel number ∨ ∃ f, e = .finish number (.raised f)

namespace Searches

open SearchEvent (started)

variable {s : Searches} {n : Nat}

/-- A session that shows its newest search, which runs. -/
structure Scanning (s : Searches) (n : Nat) : Prop where
  status : s.session.state.status = .searching
  issued : s.session.issued = n
  runs : (s.find? n).isSome = true
  le : ∀ t ∈ s.running, t.number ≤ n

theorem scanning_begin (before : List SearchEvent) {query : String} (hq : query ≠ "")
    (mode : SearchMode) {c : Config} (hc : c.roots ≠ []) (log : Log) :
    Scanning ((new.run before).step (.begin query mode (.ok c, log))) (started before + 1) := by
  have hissued := issued_run_new before
  rw [step_scanning _ hq mode hc]
  refine ⟨rfl, by rw [hissued], ?_, fun t ht => ?_⟩
  · rw [find?_cons_of_eq (by rw [Session.nextTicket, hissued])]
    rfl
  · rcases List.mem_cons.1 ht with rfl | ht
    · simp [Session.nextTicket, hissued]
    · exact Nat.le_succ_of_le (number_le_started ht)

/-- Without the newest search the others are settled. -/
theorem Scanning.settled_without (h : s.Scanning n) {session : Session}
    (hi : session.issued = n) : (Searches.mk session (s.without n)).Settled := by
  obtain ⟨-, rfl, -, hle⟩ := h
  exact Searches.settled_without hle hi

theorem Scanning.step_untouched (h : s.Scanning n) {e : SearchEvent}
    (he : e.touches n = false) : (s.step e).Scanning n := by
  cases e with
  | begin query mode config => cases he
  | finish k o =>
    have hk : k ≠ n := by simpa [SearchEvent.touches] using he
    cases hf : s.find? k with
    | none => rwa [step_finish_none hf]
    | some t =>
      have hn : t.number ≠ s.session.issued := by
        rw [number_of_find? hf, h.issued]
        exact hk
      rw [step_finish hf, Session.finish_of_ne_issued _ hn]
      exact ⟨h.status, h.issued, by rw [find?_without_of_ne _ hk.symm]; exact h.runs,
        fun t ht => h.le t (s.mem_without.1 ht).1⟩
  | cancel k =>
    have hk : k ≠ n := by simpa [SearchEvent.touches] using he
    exact ⟨h.status, h.issued, by
      simp only [step]
      rw [find?_without_of_ne _ hk.symm]
      exact h.runs, fun t ht => h.le t (s.mem_without.1 ht).1⟩

/-- The first event that touches the newest search settles the session ; it goes on to show
`searching` exactly if that event strands the search. -/
theorem Scanning.step_touched (h : s.Scanning n) {e : SearchEvent} (he : e.touches n = true)
    (hr : e.begins = true → e.isRefused = true) :
    (s.step e).Settled ∧ ((s.step e).session.state.status = .searching ↔ e.Strands n) := by
  cases e with
  | begin query mode config =>
    rw [step_of_isRefused s (hr rfl)]
    refine ⟨fun t ht => ?_, iff_of_true h.status (.inl (hr rfl))⟩
    have := h.le t ht
    show t.number < s.session.issued + 1
    rw [h.issued]
    omega
  | finish k o =>
    have hk : k = n := by simpa [SearchEvent.touches] using he
    subst hk
    obtain ⟨t, hf⟩ := Option.isSome_iff_exists.1 h.runs
    have hn : t.number = s.session.issued := (number_of_find? hf).trans h.issued.symm
    rw [step_finish hf]
    refine ⟨h.settled_without (by rw [Session.issued_finish, h.issued]), ?_⟩
    cases ho : Session.itemsOf t o with
    | error f =>
      obtain rfl := Session.itemsOf_eq_error ho
      exact iff_of_true h.status (.inr (.inr ⟨f, rfl⟩))
    | ok items =>
      rw [Session.finish_issued _ hn ho]
      refine iff_of_false (by simp [SessionState.finished]) ?_
      rintro (hx | hx | ⟨f, hx⟩)
      · cases hx
      · cases hx
      · cases hx
        cases ho
  | cancel k =>
    have hk : k = n := by simpa [SearchEvent.touches] using he
    subst hk
    exact ⟨h.settled_without h.issued, iff_of_true h.status (.inr (.inl rfl))⟩

/-- What becomes of a session that shows its newest search, as long as later searches are
refused : nothing, or the first event that touches the search decides. -/
theorem Scanning.run (h : s.Scanning n) {es : List SearchEvent}
    (hes : ∀ e ∈ es, e.begins = true → e.isRefused = true) :
    (es.find? (·.touches n) = none ∧ (s.run es).Scanning n) ∨
      ∃ e, es.find? (·.touches n) = some e ∧
        ((s.run es).session.state.status = .searching ↔ e.Strands n) := by
  induction es generalizing s with
  | nil => exact .inl ⟨rfl, h⟩
  | cons e es ih =>
    have hrest : ∀ e' ∈ es, e'.begins = true → e'.isRefused = true :=
      fun e' he' => hes e' (List.mem_cons_of_mem e he')
    cases he : e.touches n with
    | false =>
      simpa [he] using ih (h.step_untouched he) hrest
    | true =>
      obtain ⟨hsettled, hiff⟩ := h.step_touched he (hes e List.mem_cons_self)
      obtain ⟨-, hstate⟩ := hsettled.run hrest
      refine .inr ⟨e, by simp [he], ?_⟩
      rw [run_cons, hstate]
      exact hiff

/-- A session whose searches have all ended shows `searching` exactly if the last search that
got its configuration came to its scan, and the first event that touched it left it stranded :
a newer search was begun that was refused its configuration, the search was cancelled, or its
scan failed by anything but a scan failure or a time-out. In all other cases it shows `idle`
or `error`. -/
theorem status_eq_searching_iff (es : List SearchEvent) (hes : (new.run es).running = []) :
    (new.run es).session.state.status = .searching ↔
      ∃ before query mode config after e,
        es = before ++ .begin query mode config :: after ∧
          (SearchEvent.begin query mode config).isScanned = true ∧
          (∀ e' ∈ after, e'.begins = true → e'.isRefused = true) ∧
          after.find? (·.touches (started before + 1)) = some e ∧
          e.Strands (started before + 1) := by
  -- after a scanned search the first event that touches it decides
  have decided : ∀ {before query mode config after},
      es = before ++ .begin query mode config :: after →
      (SearchEvent.begin query mode config).isScanned = true →
      (∀ e' ∈ after, e'.begins = true → e'.isRefused = true) →
      ∃ e, after.find? (·.touches (started before + 1)) = some e ∧
        ((new.run es).session.state.status = .searching ↔ e.Strands (started before + 1)) := by
    rintro before query mode ⟨c, log⟩ after rfl hs ha
    cases c with
    | error f => cases hs
    | ok c =>
      obtain ⟨hq, hc⟩ : query ≠ "" ∧ c.roots ≠ [] := by simpa [SearchEvent.isScanned] using hs
      rw [run_append, run_cons] at hes ⊢
      rcases (scanning_begin before hq mode hc log).run ha with ⟨-, h⟩ | h
      · have hruns := h.runs
        simp [find?, hes] at hruns
      · exact h
  constructor
  · intro hstatus
    rcases SearchEvent.none_or_last (fun e => e.begins && !e.isRefused) es with
      h | ⟨before, b, after, hsplit, hb, ha⟩
    · have hsettled : new.Settled := fun t ht => absurd ht List.not_mem_nil
      have := (hsettled.run fun e he hb => by simpa [hb] using h e he).2
      rw [this] at hstatus
      cases hstatus
    have ha : ∀ e' ∈ after, e'.begins = true → e'.isRefused = true :=
      fun e' he' hb' => by simpa [hb'] using ha e' he'
    cases b with
    | begin query mode config =>
      cases hs : (SearchEvent.begin query mode config).isScanned with
      | true =>
        obtain ⟨e, hfirst, hiff⟩ := decided hsplit hs ha
        exact ⟨before, query, mode, config, after, e, hsplit, hs, ha, hfirst, hiff.1 hstatus⟩
      | false =>
        have hr : (SearchEvent.begin query mode config).isRefused = false := by
          simpa [SearchEvent.begins] using hb
        obtain ⟨hsettled, hne, -⟩ := settled_begin before hr hs
        rw [hsplit, run_append, run_cons, (hsettled.run ha).2] at hstatus
        exact absurd hstatus hne
    | finish k o => cases hb
    | cancel k => cases hb
  · rintro ⟨before, query, mode, config, after, e, hsplit, hs, ha, hfirst, hstrands⟩
    obtain ⟨e', hfirst', hiff⟩ := decided hsplit hs ha
    rw [hfirst] at hfirst'
    cases hfirst'
    exact hiff.2 hstrands

/-- A search whose text no command can hold, and the failure of its scan. -/
def withNul : List SearchEvent :=
  [.begin "a\x00b" .substring (.ok ⟨["."], "grep", none, defaultBudget, 8080⟩, []),
    .finish 1 (.raised ⟨.value, Launch.Refusal.nulByte.message⟩)]

theorem status_eq_searching_iff_withNul :
    (new.run withNul).running = [] ∧
      ((new.run withNul).session.state.status = .searching ↔
        ∃ before query mode config after e,
          withNul = before ++ .begin query mode config :: after ∧
            (SearchEvent.begin query mode config).isScanned = true ∧
            (∀ e' ∈ after, e'.begins = true → e'.isRefused = true) ∧
            after.find? (·.touches (started before + 1)) = some e ∧
            e.Strands (started before + 1)) :=
  ⟨rfl, status_eq_searching_iff withNul rfl⟩

/-- No search runs any more, and the session still shows `searching`. -/
theorem searching_after_all_searches :
    (new.run withNul).running = [] ∧ (new.run withNul).session.state.status = .searching := by
  decide

end Searches

end AddonAtlas
