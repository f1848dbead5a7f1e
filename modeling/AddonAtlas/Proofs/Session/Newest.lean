import AddonAtlas.Proofs.Session.Run

/-!
# The newest search wins

What a session shows is what it would show if there had been no search but the newest one
(`newest_search_wins`). To say so, a run is cut down to its newest search
(`SearchEvent.newestAlone`) : the events from its beginning on that are about it, with the
number it has when it is the first search of a session. The run and the run cut down go in
step from there on (`Searches.Shadows`) : they show the same, and the newest search runs in
both of them or in neither. The other running searches have smaller numbers, and no event
about them is seen.
-/

namespace AddonAtlas

namespace SearchEvent

/-- The part of a run from the beginning of its newest search on. -/
def sinceNewest : List SearchEvent → List SearchEvent
  | [] => []
  | e :: es => if e.begins = true ∧ started es = 0 then e :: es else sinceNewest es

/-- An event as it is about the search of a number when that is the first search of a
session ; nothing if it is about another one. -/
def asFirst? (number : Nat) : SearchEvent → Option SearchEvent
  | begin query mode config => some (begin query mode config)
  | finish k o => if k = number then some (finish 1 o) else none
  | cancel k => if k = number then some (cancel 1) else none

/-- The run of a fresh session that is given only the newest search of a run. -/
def newestAlone (es : List SearchEvent) : List SearchEvent :=
  (sinceNewest es).filterMap (asFirst? (started es))

theorem sinceNewest_of_started_eq_zero {es : List SearchEvent} (h : started es = 0) :
    sinceNewest es = [] := by
  induction es with
  | nil => rfl
  | cons e es ih =>
    rw [started_cons] at h
    have he : ¬(e.begins = true ∧ started es = 0) := fun ⟨hb, _⟩ => by simp [hb] at h
    rw [sinceNewest, if_neg he]
    exact ih (by omega)

theorem sinceNewest_append_cons (before : List SearchEvent) {e : SearchEvent}
    (he : e.begins = true) {after : List SearchEvent} (ha : started after = 0) :
    sinceNewest (before ++ e :: after) = e :: after := by
  induction before with
  | nil => rw [List.nil_append, sinceNewest, if_pos ⟨he, ha⟩]
  | cons e' before ih =>
    have hn : started (before ++ e :: after) ≠ 0 := by
      simp [he]
    rw [List.cons_append, sinceNewest, if_neg fun h => hn h.2, ih]

end SearchEvent

open SearchEvent (started asFirst? newestAlone)

namespace Searches

/-! ## A session and its shadow -/

/-- `b` shows what `a` shows, and the search of the number `n`, the newest one of `a`, is the
first and newest one of `b`. -/
structure Shadows (n : Nat) (a b : Searches) : Prop where
  state_eq : a.session.state = b.session.state
  issued_eq : a.session.issued = n
  issued_shadow : b.session.issued = 1
  find?_shadow : b.find? 1 = (a.find? n).map fun t => { t with number := 1 }

theorem shadows_begin (before : List SearchEvent) {query : String} {mode : SearchMode}
    {config : Except Failure Config × Log}
    (he : (SearchEvent.begin query mode config).isRefused = false) :
    Shadows (started before + 1) ((new.run before).step (.begin query mode config))
      (new.step (.begin query mode config)) := by
  have hissued : (new.run before).session.issued = started before := issued_run_new before
  -- an older search has a smaller number
  have hold : ∀ session,
      (Searches.mk session (new.run before).running).find? (started before + 1) = none :=
    fun session => (find?_eq_none _).2 fun t ht => by
      have := number_le_started ht
      omega
  cases Session.beginning query config with
  | empty =>
    simp only [step_empty]
    exact ⟨rfl, by rw [hissued], rfl, by rw [hold]; rfl⟩
  | refused hq f log => simp [SearchEvent.isRefused, hq] at he
  | withoutRoots hq hc log =>
    simp only [step_withoutRoots _ hq mode hc]
    exact ⟨rfl, by rw [hissued], rfl, by rw [hold]; rfl⟩
  | scanning hq hc log =>
    simp only [step_scanning _ hq mode hc]
    refine ⟨rfl, by rw [hissued], rfl, ?_⟩
    rw [find?_cons_of_eq (by rfl), find?_cons_of_eq (by rw [Session.nextTicket, hissued])]
    rfl

variable {n : Nat} {a b : Searches}

theorem Shadows.finish (h : Shadows n a b) (o : ScanOutcome) :
    Shadows n (a.step (.finish n o)) (b.step (.finish 1 o)) := by
  cases hf : a.find? n with
  | none =>
    have hb : b.find? 1 = none := by rw [h.find?_shadow, hf]; rfl
    rwa [step_finish_none hf, step_finish_none hb]
  | some t =>
    have hb : b.find? 1 = some { t with number := 1 } := by rw [h.find?_shadow, hf]; rfl
    have hn : t.number = a.session.issued := (number_of_find? hf).trans h.issued_eq.symm
    rw [step_finish hf, step_finish hb]
    refine ⟨?_, ?_, ?_, ?_⟩
    · cases ho : Session.itemsOf t o with
      | error f =>
        have ho' : Session.itemsOf { t with number := 1 } o = .error f := ho
        simp only [Session.finish, ho, ho', h.state_eq]
      | ok items =>
        have ho' : Session.itemsOf { t with number := 1 } o = .ok items := ho
        rw [Session.finish_issued _ hn ho, Session.finish_issued _ h.issued_shadow.symm ho']
    · rw [Session.issued_finish, h.issued_eq]
    · rw [Session.issued_finish, h.issued_shadow]
    · rw [find?_without_self, find?_without_self]
      rfl

theorem Shadows.finish_other (h : Shadows n a b) {k : Nat} (hk : k ≠ n) (o : ScanOutcome) :
    Shadows n (a.step (.finish k o)) b := by
  cases hf : a.find? k with
  | none => rwa [step_finish_none hf]
  | some t =>
    have hn : t.number ≠ a.session.issued := by
      rw [number_of_find? hf, h.issued_eq]
      exact hk
    rw [step_finish hf, Session.finish_of_ne_issued _ hn]
    exact ⟨h.state_eq, h.issued_eq, h.issued_shadow,
      by rw [find?_without_of_ne _ hk.symm]; exact h.find?_shadow⟩

theorem Shadows.cancel (h : Shadows n a b) :
    Shadows n (a.step (.cancel n)) (b.step (.cancel 1)) :=
  ⟨h.state_eq, h.issued_eq, h.issued_shadow, by
    simp only [step]
    rw [find?_without_self, find?_without_self]
    rfl⟩

theorem Shadows.cancel_other (h : Shadows n a b) {k : Nat} (hk : k ≠ n) :
    Shadows n (a.step (.cancel k)) b :=
  ⟨h.state_eq, h.issued_eq, h.issued_shadow, by
    simp only [step]
    rw [find?_without_of_ne _ hk.symm]
    exact h.find?_shadow⟩

theorem Shadows.step (h : Shadows n a b) {e : SearchEvent} (he : e.begins = false) :
    Shadows n (a.step e) (b.run (asFirst? n e).toList) := by
  cases e with
  | begin query mode config => cases he
  | finish k o =>
    by_cases hk : k = n
    · subst hk
      simpa [asFirst?] using h.finish o
    · simpa [asFirst?, hk] using h.finish_other hk o
  | cancel k =>
    by_cases hk : k = n
    · subst hk
      simpa [asFirst?] using h.cancel
    · simpa [asFirst?, hk] using h.cancel_other hk

/-- As long as no search begins, the two sessions go in step. -/
theorem Shadows.run (h : Shadows n a b) {es : List SearchEvent} (hes : started es = 0) :
    Shadows n (a.run es) (b.run (es.filterMap (asFirst? n))) := by
  induction es generalizing a b with
  | nil => exact h
  | cons e es ih =>
    rw [SearchEvent.started_cons] at hes
    have he : e.begins = false := by
      cases hb : e.begins with
      | false => rfl
      | true => simp [hb] at hes
    have := ih (h.step he) (by omega)
    rw [← run_append] at this
    rw [run_cons, List.filterMap_cons]
    cases hf : asFirst? n e with
    | none => simpa [hf] using this
    | some e' => simpa [hf] using this

theorem run_of_started_eq_zero {es : List SearchEvent} (h : started es = 0) :
    new.run es = new := by
  induction es with
  | nil => rfl
  | cons e es ih =>
    rw [SearchEvent.started_cons] at h
    have hstep : new.step e = new := by
      cases e with
      | begin query mode config => simp [SearchEvent.begins] at h
      | finish k o => rfl
      | cancel k => rfl
    rw [run_cons, hstep]
    exact ih (by omega)

/-- A session shows what a fresh one shows that is given only the newest search, with the same
configuration and the same outcome of its scan. -/
theorem state_eq_newestAlone {es : List SearchEvent} (hes : ∀ e ∈ es, e.isRefused = false) :
    (new.run es).session.state = (new.run (newestAlone es)).session.state := by
  rcases SearchEvent.none_or_last SearchEvent.begins es with h | ⟨before, e, after, rfl, he, ha⟩
  · have h := SearchEvent.started_eq_zero.2 h
    rw [newestAlone, SearchEvent.sinceNewest_of_started_eq_zero h, run_of_started_eq_zero h]
    rfl
  · have ha := SearchEvent.started_eq_zero.2 ha
    cases e with
    | begin query mode config =>
      have hr := hes (.begin query mode config) (by simp)
      have hn : started (before ++ .begin query mode config :: after) = started before + 1 := by
        simp [ha, he]
      have := ((shadows_begin before hr).run ha).state_eq
      rw [newestAlone, SearchEvent.sinceNewest_append_cons before he ha, hn, run_append, run_cons,
        this]
      rfl
    | finish k o => cases he
    | cancel k => cases he

/-! ## Who publishes -/

/-- A search whose scan has run publishes if no other one began in the meantime. -/
theorem published_of_finish {es : List SearchEvent} {k : Nat} {o : ScanOutcome}
    {r : SearchReply} (h : (new.run es).answer? (.finish k o) = some (.ok r)) :
    ∃ before query mode config between,
      es = before ++ .begin query mode config :: between ∧ k = started before + 1 ∧
        (r.published = true ↔ ∀ e ∈ between, e.begins = false) := by
  obtain ⟨t, hf, ht⟩ := Option.map_eq_some_iff.1 h
  obtain ⟨before, query, mode, c, log, between, rfl, -, -, rfl⟩ :=
    begun_of_mem_running (mem_running_of_find? hf)
  have hk := number_of_find? hf
  refine ⟨before, query, mode, (.ok c, log), between, rfl, hk.symm, ?_⟩
  rw [Session.published_of_finish _ ht, issued_run_new, decide_eq_true_iff,
    ← SearchEvent.started_eq_zero]
  simp only [SearchEvent.started_append, SearchEvent.started_cons, SearchEvent.begins, if_true]
  omega

/-- The newest search wins. In every run of a session whose searches get their
configurations, the session shows at each point what a fresh session shows that is given only
the newest search. A search that returns reports that it has published exactly when no other
one began between its own beginning and its end. -/
theorem newest_search_wins (es : List SearchEvent) (hes : ∀ e ∈ es, e.isRefused = false) :
    (new.run es).session.state = (new.run (newestAlone es)).session.state ∧
      (∀ query mode config r, (new.run es).answer? (.begin query mode config) = some (.ok r) →
        r.published = true) ∧
      ∀ k o r, (new.run es).answer? (.finish k o) = some (.ok r) →
        ∃ before query mode config between,
          es = before ++ .begin query mode config :: between ∧ k = started before + 1 ∧
            (r.published = true ↔ ∀ e ∈ between, e.begins = false) :=
  ⟨state_eq_newestAlone hes, fun _ _ _ _ h => by rw [(answer?_begin h).1],
    fun _ _ _ => published_of_finish⟩

/-- Two searches that overlap ; the one begun first ends last. -/
def overlapping : List SearchEvent :=
  let config : Config := ⟨["/a"], "grep", none, defaultBudget, 8080⟩
  [.begin "slow" .substring (.ok config, []), .begin "fast" .substring (.ok config, []),
    .finish 2 (.hits [⟨"/a/fast.py", 6, ""⟩]), .finish 1 (.hits [⟨"/a/slow.py", 8, ""⟩])]

theorem newest_search_wins_overlapping :
    (∀ e ∈ overlapping, e.isRefused = false) ∧
      (new.run overlapping).session.state = (new.run (newestAlone overlapping)).session.state ∧
      (new.run overlapping).session.state =
        .finished "fast" .substring [⟨"/fast.py", "/a/fast.py", 6⟩] :=
  ⟨by decide, (newest_search_wins overlapping (by decide)).1, by decide⟩

end Searches

end AddonAtlas
